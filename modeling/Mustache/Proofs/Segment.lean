import Mustache.Context
import Mustache.Template

/-!
Properties of segments at any depth. A property that is asked of every segment is asked of those in
sections and in partials as well.
-/

namespace Mustache

set_option autoImplicit false

def Options.Each (holds : Value → Prop) (options : Options) : Prop :=
  holds options.escapeHtml ∧ holds options.standardsMode ∧ holds options.defaultValue ∧
    holds options.strictVariables

namespace Segment

mutual
def Everywhere (holds : Segment → Prop) : Segment → Prop
  | .text content => holds (.text content)
  | .interpolation name escaped line => holds (.interpolation name escaped line)
  | .block inverted name line body =>
      holds (.block inverted name line body) ∧ EverywhereAll holds body
  | .included name config body => holds (.included name config body) ∧ EverywhereAll holds body
  termination_by structural segment => segment
def EverywhereAll (holds : Segment → Prop) : List Segment → Prop
  | [] => True
  | segment :: rest => Everywhere holds segment ∧ EverywhereAll holds rest
  termination_by structural segments => segments
end

theorem everywhere_all_iff (holds : Segment → Prop) (segments : List Segment) :
    EverywhereAll holds segments ↔ ∀ segment ∈ segments, segment.Everywhere holds := by
  induction segments with
  | nil => simp [EverywhereAll]
  | cons segment segments induction => simp [EverywhereAll, induction]

mutual
theorem Everywhere.weaken {holds weaker : Segment → Prop}
    (implied : ∀ segment, holds segment → weaker segment) {segment : Segment}
    (everywhere : segment.Everywhere holds) : segment.Everywhere weaker := by
  match segment with
  | .text _ | .interpolation _ _ _ => exact implied _ everywhere
  | .block _ _ _ body | .included _ _ body =>
      have both : holds _ ∧ EverywhereAll holds body := everywhere
      exact ⟨implied _ both.1, both.2.weaken implied⟩
  termination_by structural segment
theorem EverywhereAll.weaken {holds weaker : Segment → Prop}
    (implied : ∀ segment, holds segment → weaker segment) {segments : List Segment}
    (all : EverywhereAll holds segments) : EverywhereAll weaker segments := by
  match segments with
  | [] => trivial
  | segment :: rest =>
      have both : segment.Everywhere holds ∧ EverywhereAll holds rest := all
      exact ⟨both.1.weaken implied, both.2.weaken implied⟩
  termination_by structural segments
end

mutual
/-- Every partial that stands among the segments or in their sections, but not in other partials. -/
def Embeds (holds : String → List Segment → Prop) : Segment → Prop
  | .text _ | .interpolation _ _ _ => True
  | .block _ _ _ body => EmbedsAll holds body
  | .included name _ body => holds name body
  termination_by structural segment => segment
def EmbedsAll (holds : String → List Segment → Prop) : List Segment → Prop
  | [] => True
  | segment :: rest => Embeds holds segment ∧ EmbedsAll holds rest
  termination_by structural segments => segments
end

theorem embeds_all_iff (holds : String → List Segment → Prop) (segments : List Segment) :
    EmbedsAll holds segments ↔ ∀ segment ∈ segments, segment.Embeds holds := by
  induction segments with
  | nil => simp [EmbedsAll]
  | cons segment segments induction => simp [EmbedsAll, induction]

def Flag (holds : Value → Prop) : Segment → Prop
  | .interpolation _ escaped _ => holds escaped
  | .included _ config _ => config.options.Each holds
  | _ => True

def Names (holds : String → Prop) : Segment → Prop
  | .interpolation name _ _ | .block _ name _ _ => ∀ part ∈ nameParts name, holds part
  | _ => True

def Partials (holds : String → List Segment → Prop) : Segment → Prop
  | .included name _ body => holds name body
  | _ => True

def Configs (holds : Config → Prop) : Segment → Prop
  | .included _ config _ => holds config
  | _ => True

mutual
def recast (flag : Value → Value) (own : Config → Config) : Segment → Segment
  | .text content => .text content
  | .interpolation name escaped line => .interpolation name (flag escaped) line
  | .block inverted name line body => .block inverted name line (recastAll flag own body)
  | .included name config body => .included name (own config) (recastAll flag own body)
  termination_by structural segment => segment
def recastAll (flag : Value → Value) (own : Config → Config) : List Segment → List Segment
  | [] => []
  | segment :: rest => recast flag own segment :: recastAll flag own rest
  termination_by structural segments => segments
end

theorem recast_all_eq_map (flag : Value → Value) (own : Config → Config)
    (segments : List Segment) : recastAll flag own segments = segments.map (recast flag own) := by
  induction segments with
  | nil => rfl
  | cons segment rest induction => rw [recastAll, induction, List.map_cons]

mutual
theorem recast_recast (flag flag' : Value → Value) (own own' : Config → Config)
    (segment : Segment) :
    (segment.recast flag own).recast flag' own' = segment.recast (flag' ∘ flag) (own' ∘ own) := by
  match segment with
  | .text _ | .interpolation _ _ _ => rfl
  | .block inverted name line body =>
      exact congrArg (block inverted name line) (recast_all_recast_all flag flag' own own' body)
  | .included name config body =>
      exact congrArg (included name _) (recast_all_recast_all flag flag' own own' body)
  termination_by structural segment
theorem recast_all_recast_all (flag flag' : Value → Value) (own own' : Config → Config)
    (segments : List Segment) :
    recastAll flag' own' (recastAll flag own segments) =
      recastAll (flag' ∘ flag) (own' ∘ own) segments := by
  match segments with
  | [] => rfl
  | segment :: rest =>
      rw [recastAll, recastAll, recastAll, recast_recast flag flag' own own' segment,
        recast_all_recast_all flag flag' own own' rest]
  termination_by structural segments
end

theorem configs_weaken {holds weaker : Config → Prop}
    (implied : ∀ config, holds config → weaker config) {segments : List Segment}
    (all : EverywhereAll (Configs holds) segments) : EverywhereAll (Configs weaker) segments := by
  apply all.weaken
  intro segment own
  cases segment with
  | included name config body => exact implied config own
  | _ => trivial

def reconfiguredAll (config : Config) : List Segment → List Segment := recastAll id fun _ => config

mutual
theorem reconfigured_configs (config : Config) (segment : Segment) :
    (segment.recast id fun _ => config).Everywhere (Configs (· = config)) := by
  match segment with
  | .text _ | .interpolation _ _ _ => trivial
  | .block _ _ _ body => exact ⟨trivial, reconfigured_all_configs config body⟩
  | .included _ _ body => exact ⟨rfl, reconfigured_all_configs config body⟩
  termination_by structural segment
theorem reconfigured_all_configs (config : Config) (segments : List Segment) :
    EverywhereAll (Configs (· = config)) (reconfiguredAll config segments) := by
  match segments with
  | [] => trivial
  | segment :: rest =>
      exact ⟨reconfigured_configs config segment, reconfigured_all_configs config rest⟩
  termination_by structural segments
end

section Embedding

variable {holds weaker : String → List Segment → Prop}

mutual
theorem Embeds.weaken (implied : ∀ name body, holds name body → weaker name body)
    {segment : Segment} (embeds : segment.Embeds holds) : segment.Embeds weaker := by
  match segment with
  | .text _ | .interpolation _ _ _ => trivial
  | .block _ _ _ body =>
      have inner : EmbedsAll holds body := embeds
      exact inner.weaken implied
  | .included name _ body => exact implied name body embeds
  termination_by structural segment
theorem EmbedsAll.weaken (implied : ∀ name body, holds name body → weaker name body)
    {segments : List Segment} (embeds : EmbedsAll holds segments) : EmbedsAll weaker segments := by
  match segments with
  | [] => trivial
  | segment :: rest =>
      obtain ⟨first, others⟩ : segment.Embeds holds ∧ EmbedsAll holds rest := embeds
      exact ⟨first.weaken implied, others.weaken implied⟩
  termination_by structural segments
end

mutual
theorem everywhere_partials_iff (holds : String → List Segment → Prop) (segment : Segment) :
    segment.Everywhere (Partials holds) ↔
      segment.Embeds fun name body => holds name body ∧ EverywhereAll (Partials holds) body := by
  match segment with
  | .text _ | .interpolation _ _ _ => exact iff_of_true trivial trivial
  | .block _ _ _ body =>
      exact (and_iff_right trivial).trans (everywhere_all_partials_iff holds body)
  | .included _ _ _ => exact Iff.rfl
  termination_by structural segment
theorem everywhere_all_partials_iff (holds : String → List Segment → Prop)
    (segments : List Segment) :
    EverywhereAll (Partials holds) segments ↔
      EmbedsAll (fun name body => holds name body ∧ EverywhereAll (Partials holds) body)
        segments := by
  match segments with
  | [] => exact Iff.rfl
  | segment :: rest =>
      exact and_congr (everywhere_partials_iff holds segment)
        (everywhere_all_partials_iff holds rest)
  termination_by structural segments
end

end Embedding

def Escapes : Segment → Prop
  | .interpolation _ escaped _ => escaped = .bool true
  | _ => True

def Unmarked : Segment → Prop
  | .text content => ∀ c ∈ content.toList, c ∉ ['<', '>', '"', '\'', '&']
  | _ => True

/-- Going down from segments to segments inside of them, these are the names of the partials passed
through on the way, outermost first. -/
inductive NestedPath : List Segment → List String → Prop where
  | here (segments : List Segment) : NestedPath segments []
  | within {segments body : List Segment} {inverted : Bool} {name : String} {line : Nat}
      {path : List String} (member : .block inverted name line body ∈ segments)
      (inner : NestedPath body path) : NestedPath segments path
  | through {segments body : List Segment} {name : String} {config : Config} {path : List String}
      (member : .included name config body ∈ segments) (inner : NestedPath body path) :
      NestedPath segments (name :: path)

/-- A path that is not empty leads through a partial with the property that all partials here
have. -/
theorem NestedPath.first {holds : String → List Segment → Prop} {segments : List Segment}
    {path : List String} (nested : NestedPath segments path)
    (embeds : EmbedsAll holds segments) :
    path = [] ∨ ∃ name body rest, path = name :: rest ∧ holds name body ∧
      NestedPath body rest := by
  induction nested with
  | here segments => exact .inl rfl
  | within member inner induction =>
      exact induction ((embeds_all_iff holds _).mp embeds _ member)
  | through member inner induction =>
      exact .inr ⟨_, _, _, rfl, (embeds_all_iff holds _).mp embeds _ member, inner⟩

end Segment

def Config.template (config : Config) (segments : List Segment) : Template :=
  ⟨Segment.reconfiguredAll config segments, config⟩

end Mustache
