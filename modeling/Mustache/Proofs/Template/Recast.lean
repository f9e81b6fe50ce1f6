import Mustache.Proofs.Mirror
import Mustache.Proofs.Segment
import Mustache.Proofs.Template.Assembly

/-!
Compiling with one config beside compiling with another. What a config has a part in are the flags of
interpolations and the configs of partials, and no decision depends on either. So if the partials
are alike up to these, the whole is.
-/

namespace Mustache

set_option autoImplicit false

def OpenBlock.recast (flag : Value → Value) (own : Config → Config) (block : OpenBlock) :
    OpenBlock :=
  { block with outer := Segment.recastAll flag own block.outer }

def Assembly.recast (flag : Value → Value) (own : Config → Config) (assembly : Assembly) :
    Assembly :=
  ⟨Segment.recastAll flag own assembly.current, assembly.blocks.map (OpenBlock.recast flag own)⟩

variable {link : Journal → Journal → Prop} {flag : Value → Value} {own : Config → Config}
  {base config : Config}

theorem Mirrors.of_lift_parse {α α' : Type} {image : α → α'} {result : Except ParseError α}
    {other : Except ParseError α'} (same : other = result.map image) :
    Mirrors link image (liftParse result) (liftParse other) := by
  subst same
  cases result with
  | error error => exact .of_throw _
  | ok value => exact .of_pure value

theorem close_recast (assembly : Assembly) (name : String) (line : Nat) :
    (assembly.recast flag own).closeBlock name line =
      (assembly.closeBlock name line).map (Assembly.recast flag own) := by
  rcases assembly with ⟨current, blocks⟩
  cases blocks with
  | nil => rfl
  | cons block blocks =>
      change (if block.name = name then _ else _) =
        Except.map (Assembly.recast flag own) (if block.name = name then _ else _)
      split
      · have reversed : (Segment.recastAll flag own current).reverse =
            Segment.recastAll flag own current.reverse := by
          rw [Segment.recast_all_eq_map, Segment.recast_all_eq_map, List.map_reverse]
        exact congrArg Except.ok (by
          simp only [Assembly.recast, Segment.recastAll, Segment.recast, reversed,
            OpenBlock.recast])
      · rfl

theorem finish_recast (assembly : Assembly) :
    (assembly.recast flag own).finish = assembly.finish.map (Segment.recastAll flag own) := by
  rcases assembly with ⟨current, blocks⟩
  cases blocks with
  | nil =>
      simp only [Assembly.finish, Assembly.recast, List.map_nil, Except.map,
        Segment.recast_all_eq_map, List.map_reverse]
  | cons block blocks => rfl

variable {includePartial includeOther : String → Compile (List Segment)}

section Compiling

variable (raw : flag (.bool false) = .bool false)
  (plain : flag base.options.escapeHtml = config.options.escapeHtml) (owned : own base = config)
  (included : ∀ name,
    Mirrors link (Segment.recastAll flag own) (includePartial name) (includeOther name))
include raw plain owned included

theorem place_recast (assembly : Assembly) (token : Token) :
    Mirrors link (Assembly.recast flag own) (placeToken base includePartial assembly token)
      (placeToken config includeOther (assembly.recast flag own) token) := by
  have added (segment : Segment) (other : Segment) (same : segment.recast flag own = other) :
      Mirrors link (Assembly.recast flag own) (pure (assembly.add segment))
        (pure ((assembly.recast flag own).add other)) := by
    subst same
    exact .of_pure (assembly.add segment)
  cases token with
  | text content => exact added _ _ rfl
  | tag tag line =>
      cases tag with
      | interpolation name asksRaw =>
          cases asksRaw with
          | true => exact added _ _ (congrArg (Segment.interpolation name · line) raw)
          | false => exact added _ _ (congrArg (Segment.interpolation name · line) plain)
      | opening inverted name => exact .of_pure (assembly.openBlock inverted name line)
      | closing name => exact .of_lift_parse (close_recast assembly name line)
      | inclusion name =>
          apply Mirrors.of_bind (included name)
          intro body
          exact added _ _ (congrArg (Segment.included name · _) owned)
      | comment => exact .of_pure assembly
      | directive delimiters => exact .of_pure assembly

theorem assemble_recast (assembly : Assembly) (tokens : List Token) :
    Mirrors link (Assembly.recast flag own) (assemble base includePartial assembly tokens)
      (assemble config includeOther (assembly.recast flag own) tokens) := by
  induction tokens generalizing assembly with
  | nil => exact .of_pure assembly
  | cons token tokens induction =>
      exact .of_bind (place_recast raw plain owned included assembly token) induction

theorem compile_recast
    (told : ∀ count, Mirrors link id (record (.compiled count)) (record (.compiled count)))
    (scan : Scan) :
    Mirrors link (Segment.recastAll flag own) (scan.compile base includePartial)
      (scan.compile config includeOther) := by
  apply Mirrors.of_bind (assemble_recast raw plain owned included .empty scan.tokens)
  intro assembly
  cases scan.failure with
  | some fault => exact .of_throw fault
  | none =>
      apply Mirrors.of_bind (.of_lift_parse (finish_recast assembly))
      intro segments
      rw [Segment.recast_all_eq_map, List.length_map, ← Segment.recast_all_eq_map]
      apply Mirrors.of_bind (told segments.length)
      intro _
      exact .of_pure segments

end Compiling

end Mustache
