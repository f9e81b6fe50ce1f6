import Mustache.Proofs.Mirror
import Mustache.Proofs.Value.Likeness
import Mustache.Value.Member

/-!
What plain values offer by name, in a guise. A member of the value in a guise comes to the result
of the member of the value itself, in that guise, and leaves the stores linked.
-/

namespace Mustache

set_option autoImplicit false

open Number

abbrev Guise.Reflects (guise : Guise) (base : Store) (action other : Access Value) : Prop :=
  Mirrors (guise.Links base) (Value.under guise) action other

/-- Both are there to be read, or both are routines with the same parameters. -/
inductive Guise.Matches (guise : Guise) (base : Store) : Builtin → Builtin → Prop where
  | part {give other : Access Value} :
      guise.Reflects base give other → Matches guise base (.part give) (.part other)
  | routine (params : List Param) {action other : Access Value} :
      guise.Reflects base action other →
        Matches guise base (.routine params action) (.routine params other)

/-- There is a member in both cases or in none. -/
abbrev Guise.Offers (guise : Guise) (base : Store) (member other : Option Builtin) : Prop :=
  Option.Rel (guise.Matches base) member other

section Members

variable {guise : Guise} {base : Store}

theorem pure_reflects {value other : Value} (same : value.under guise = other) :
    guise.Reflects base (pure value) (pure other) := by
  subst same
  exact .of_pure value

theorem reads_reflect {give other : Access Value} (reflects : guise.Reflects base give other) :
    guise.Offers base (reads give) (reads other) := .some (.part reflects)

theorem calls_reflect {params : List Param} {action other : Access Value}
    (reflects : guise.Reflects base action other) :
    guise.Offers base (calls params action) (calls params other) := .some (.routine params reflects)

theorem needs_reflect (params : List Param) : guise.Offers base (needs params) (needs params) :=
  calls_reflect (.of_throw _)

theorem Guise.Offers.used_reflects {member other : Option Builtin}
    (offers : guise.Offers base member other) :
    guise.Reflects base ((member.map Builtin.used).getD (pure .missing))
      ((other.map Builtin.used).getD (pure .missing)) := by
  cases offers with
  | none => exact pure_reflects rfl
  | some same =>
      cases same with
      | part reflects => exact reflects
      | routine params reflects =>
          dsimp only [Option.map, Option.getD, Builtin.used]
          split
          · exact pure_reflects rfl
          · exact reflects

theorem new_list_reflects (items : List Value) :
    guise.Reflects base (newList items) (newList (items.map (Value.under guise))) := by
  apply Mirrors.of_state
  intro store store' links
  have number : store'.orders.size = guise.order store.orders.size := (links.orders.next 0).symm
  constructor
  · change Value.list (items.map _) store'.orders.size = Value.list (underEach guise items) _
    rw [under_each_eq, number]
  · change guise.Links base { store with orders := store.orders.push (Array.range items.length) }
      { store' with orders := store'.orders.push (Array.range (items.map _).length) }
    rw [List.length_map]
    exact ⟨links.orders.push guise.order_injective _, links.counters⟩

theorem new_buffer_reflects (octets : List UInt8) :
    guise.Reflects base (newBuffer octets) (newBuffer octets) := by
  apply Mirrors.of_state
  intro store store' links
  refine ⟨?_, links.orders.push guise.order_injective _, links.counters⟩
  exact congrArg (Value.buffer octets) (links.orders.next 0).symm

theorem new_float_reflects (x : Double) : guise.Reflects base (newFloat x) (newFloat x) := by
  apply Mirrors.of_state
  intro store store' links
  refine ⟨?_, links.orders, links.counters.push guise.counter_injective _⟩
  exact congrArg (Value.float x) (links.counters.next 0).symm

theorem new_decimal_reflects (x : Exact) : guise.Reflects base (newDecimal x) (newDecimal x) := by
  apply Mirrors.of_state
  intro store store' links
  refine ⟨?_, links.orders, links.counters.push guise.counter_injective _⟩
  exact congrArg (Value.decimal x) (links.counters.next 0).symm

theorem new_complex_reflects (real imaginary : Double) :
    guise.Reflects base (newComplex real imaginary) (newComplex real imaginary) := by
  apply Mirrors.of_state
  intro store store' links
  refine ⟨?_, links.orders, links.counters.push guise.counter_injective _⟩
  exact congrArg (Value.complex real imaginary) (links.counters.next 0).symm

theorem texts_reflect (pieces : List (List Char)) :
    guise.Reflects base (giveTexts pieces) (giveTexts pieces) := by
  let items : List Value := pieces.map fun piece => .text (String.ofList piece)
  have reflects : guise.Reflects base (newList items) (newList (items.map (Value.under guise))) :=
    new_list_reflects items
  rwa [List.map_map] at reflects

theorem map_mirrors {α : Type} {give : α → Access Value}
    (each : ∀ piece, guise.Reflects base (give piece) (give piece)) (pieces : List α) :
    Mirrors (guise.Links base) (List.map (Value.under guise)) (pieces.mapM give)
      (pieces.mapM give) := by
  induction pieces with
  | nil => exact .of_pure []
  | cons piece pieces induction =>
      rw [List.mapM_cons]
      apply Mirrors.of_bind (each piece)
      intro item
      apply Mirrors.of_bind induction
      intro items
      exact .of_pure (item :: items)

theorem reorder_reflects (cell : Nat) (change : Array Nat → Array Nat) :
    guise.Reflects base (reorder cell change) (reorder (guise.order cell) change) := by
  apply Mirrors.of_modify
  · intro store store' links
    rw [links.order]
    exact links.set_order cell _
  · exact pure_reflects rfl

theorem last_reflects {α β : Type} (shape : α → β) (give : α → Value) (give' : β → Value)
    (each : ∀ item, give' (shape item) = (give item).under guise) (items : List α) (cell : Nat) :
    guise.Reflects base (popLast items cell give)
      (popLast (items.map shape) (guise.order cell) give') := by
  apply Mirrors.of_get
  intro store store' links
  rw [links.order]
  dsimp only
  split
  · exact .of_throw _
  · next index _ =>
      apply Mirrors.of_modify
      · exact fun store store' links => links.set_order cell _
      · rw [List.getElem?_map]
        cases items[index]? with
        | none => exact .of_throw _
        | some item =>
            exact pure_reflects (each item).symm

def lessAt (store : Store) (items : List Value) (i j : Nat) : Except Fault Bool :=
  match items.toArray[i]?, items.toArray[j]? with
  | some item, some other => item.less store other
  | _, _ => .ok false

theorem sort_list_eq (items : List Value) (cell : Nat) :
    sortList items cell = (do
      let store ← get
      let sorted := Sort.sort (lessAt store items) (store.order cell).toList
      set (store.setOrder cell sorted.1.toArray)
      match sorted.2 with
      | some fault => throw fault
      | none => return .null) := rfl

theorem less_at_under {store store' : Store} (links : guise.Links base store store')
    (items : List Value) :
    lessAt store' (items.map (Value.under guise)) = lessAt store items := by
  funext i j
  unfold lessAt
  simp only [List.getElem?_toArray, List.getElem?_map]
  cases items[i]? with
  | none => rfl
  | some item =>
      cases items[j]? with
      | none => rfl
      | some other => exact congrFun (Value.less_under links item) other

theorem sorted_reflects (items : List Value) (cell : Nat) :
    guise.Reflects base (sortList items cell)
      (sortList (items.map (Value.under guise)) (guise.order cell)) := by
  rw [sort_list_eq, sort_list_eq]
  apply Mirrors.of_get
  intro store store' links
  rw [less_at_under links, links.order]
  -- The places are set before a fault is raised: a list whose sorting fails is left half sorted.
  apply Mirrors.of_set (links.set_order cell _)
  split
  · exact .of_throw _
  · exact pure_reflects rfl

theorem text_reflects (content : List Char) (name : String) :
    guise.Offers base (textMember? content name) (textMember? content name) := by
  have encodes : guise.Reflects base
      (if Text.isEncodable content then pure (.octets (Text.encode (String.ofList content)))
        else fail .unencodable)
      (if Text.isEncodable content then pure (.octets (Text.encode (String.ofList content)))
        else fail .unencodable) := by
    split
    · exact pure_reflects rfl
    · exact .of_throw _
  have gives (content : List Char) : guise.Reflects base (giveText content) (giveText content) :=
    pure_reflects rfl
  unfold textMember?
  split
  -- All but one of the members are conversions and tests that cannot fail.
  all_goals first
    | with_reducible exact .none
    | with_reducible exact needs_reflect _
    | with_reducible exact calls_reflect (gives _)
    | with_reducible exact calls_reflect (texts_reflect _)
    | with_reducible exact calls_reflect encodes
    | exact calls_reflect (pure_reflects rfl)

theorem octets_reflect {give : List UInt8 → Access Value}
    (each : ∀ octets, guise.Reflects base (give octets) (give octets)) (content : List UInt8)
    (name : String) :
    guise.Offers base (octetsMember? give content name) (octetsMember? give content name) := by
  have gives (pieces : List (List UInt8)) : guise.Reflects base
      (do
        let items ← pieces.mapM give
        (newList items : Access Value))
      (do
        let items ← pieces.mapM give
        (newList items : Access Value)) :=
    .of_bind (map_mirrors each pieces) new_list_reflects
  unfold octetsMember?
  dsimp only
  split
  · apply calls_reflect
    split
    · exact pure_reflects rfl
    · exact .of_throw _
  all_goals first
    | with_reducible exact .none
    | with_reducible exact needs_reflect _
    | with_reducible exact calls_reflect (each _)
    | with_reducible exact calls_reflect (gives _)

theorem int_reflects (n : Int) (name : String) :
    guise.Offers base (intMember? n name) (intMember? n name) := by
  have octet : guise.Reflects base
      (if 0 ≤ n && n < 256 then pure (.octets [UInt8.ofNat n.toNat]) else fail .octetOutOfRange)
      (if 0 ≤ n && n < 256 then pure (.octets [UInt8.ofNat n.toNat])
        else fail .octetOutOfRange) := by
    split
    · exact pure_reflects rfl
    · exact .of_throw _
  unfold intMember?
  split
  all_goals first
    | with_reducible exact .none
    | with_reducible exact needs_reflect _
    | with_reducible exact calls_reflect octet
    | exact reads_reflect (pure_reflects rfl)
    | exact calls_reflect (pure_reflects rfl)

theorem float_reflects (x : Double) (cell : Nat) (name : String) :
    guise.Offers base (floatMember? x cell name) (floatMember? x (guise.counter cell) name) := by
  unfold floatMember?
  split
  · exact reads_reflect (pure_reflects rfl)
  · exact reads_reflect (new_float_reflects _)
  · exact calls_reflect (pure_reflects rfl)
  · exact calls_reflect (pure_reflects rfl)
  · exact calls_reflect (pure_reflects rfl)
  · apply calls_reflect
    split
    · exact pure_reflects rfl
    · exact .of_throw _
    · exact .of_throw _
  · exact needs_reflect _
  · exact .none

theorem complex_reflects (real imaginary : Double) (name : String) :
    guise.Offers base (complexMember? real imaginary name)
      (complexMember? real imaginary name) := by
  unfold complexMember?
  split
  · exact reads_reflect (new_float_reflects _)
  · exact reads_reflect (new_float_reflects _)
  · exact calls_reflect (new_complex_reflects _ _)
  · exact .none

theorem give_exact_reflects (result : Except ContextFault Exact) :
    guise.Reflects base (giveExact result) (giveExact result) := by
  cases result with
  | ok value => exact new_decimal_reflects value
  | error cause => exact .of_throw _

theorem exact_ratio_reflects (value : Exact) :
    guise.Reflects base (exactRatio value) (exactRatio value) := by
  cases value with
  | finite value => exact pure_reflects rfl
  | infinite negative => exact .of_throw _
  | nan negative signalling payload => exact .of_throw _

/-- A new object whose attributes have public names and cells nowhere. -/
theorem new_object_reflects {named : List (String × Value)} {items : Option (List Value)}
    (named_public : ∀ part ∈ named, isPublicName part.1 = true)
    (each : ∀ part ∈ named, part.2.under guise = part.2)
    (every : ∀ item ∈ items.getD [], item.under guise = item) (length : Option Int)
    (quoted text : String) :
    let give : Access Value := do
      let cell ← newCounter
      return .object ⟨cell, named, [], [], items, none, length, quoted, text, none⟩
    guise.Reflects base give give := by
  have kept : underNamed guise named = named := by
    rw [under_named_eq, List.filter_eq_self.mpr fun part member =>
      guise.shows_public part.1 (named_public part member)]
    refine (List.map_congr_left fun part member => ?_).trans (List.map_id named)
    exact Prod.ext rfl (each part member)
  have listed : underItems guise items = items := by
    cases items with
    | none => rfl
    | some items =>
        rw [under_items_eq, Option.map_some]
        exact congrArg some ((List.map_congr_left every).trans (List.map_id items))
  have counts : Mirrors (guise.Links base) guise.counter (newCounter : Access Nat) newCounter := by
    apply Mirrors.of_state
    intro store store' links
    exact ⟨(links.counters.next 0).symm, links.orders,
      links.counters.push guise.counter_injective _⟩
  apply Mirrors.of_bind counts
  intro cell
  apply pure_reflects
  simp only [Value.under, underHost, kept, listed]
  rfl

theorem exact_parts_reflect (value : Exact) :
    guise.Reflects base (exactParts value) (exactParts value) := by
  unfold exactParts
  dsimp only
  split
  all_goals
    apply new_object_reflects
    · simp [isPublicName]
    · simp [Value.under]
    · simp [Value.under]

theorem decimal_reflects (value : Exact) (cell : Nat) (name : String) :
    guise.Offers base (decimalMember? value cell name)
      (decimalMember? value (guise.counter cell) name) := by
  unfold decimalMember?
  split
  all_goals first
    | with_reducible exact .none
    | with_reducible exact needs_reflect _
    | with_reducible exact calls_reflect (give_exact_reflects _)
    | with_reducible exact calls_reflect (new_decimal_reflects _)
    | with_reducible exact reads_reflect (new_decimal_reflects _)
    | with_reducible exact calls_reflect (exact_ratio_reflects _)
    | with_reducible exact calls_reflect (exact_parts_reflect _)
    | exact reads_reflect (pure_reflects rfl)
    | exact calls_reflect (pure_reflects rfl)

theorem fraction_reflects (numerator : Int) (denominator : Nat) (name : String) :
    guise.Offers base (fractionMember? numerator denominator name)
      (fractionMember? numerator denominator name) := by
  unfold fractionMember?
  split
  all_goals first
    | with_reducible exact .none
    | with_reducible exact needs_reflect _
    | exact reads_reflect (pure_reflects rfl)
    | exact calls_reflect (pure_reflects rfl)

theorem search_reflects (name : String) :
    guise.Offers base (searchMember? name) (searchMember? name) := by
  unfold searchMember?
  split
  · exact needs_reflect _
  · exact needs_reflect _
  · exact .none

theorem range_reflects (start stop step : Int) (name : String) :
    guise.Offers base (rangeMember? start stop step name) (rangeMember? start stop step name) := by
  unfold rangeMember?
  split
  · exact reads_reflect (pure_reflects rfl)
  · exact reads_reflect (pure_reflects rfl)
  · exact reads_reflect (pure_reflects rfl)
  · exact .none

theorem date_reflects (year month day : Nat) (name : String) :
    guise.Offers base (dateMember? year month day name) (dateMember? year month day name) := by
  have given : guise.Reflects base oneDay oneDay := by
    apply new_object_reflects
    · decide
    · simp [Value.under]
    · exact List.forall_mem_nil _
  unfold dateMember?
  split
  all_goals first
    | with_reducible exact .none
    | with_reducible exact needs_reflect _
    | with_reducible exact reads_reflect given
    | exact reads_reflect (pure_reflects rfl)

theorem list_reflects (items : List Value) (cell : Nat) (name : String) :
    guise.Offers base (listMember? items cell name)
      (listMember? (items.map (Value.under guise)) (guise.order cell) name) := by
  unfold listMember?
  split
  · exact calls_reflect (reorder_reflects cell _)
  · apply calls_reflect
    apply Mirrors.of_get
    intro store store' links
    rw [links.held, Store.held_map]
    exact new_list_reflects _
  · exact calls_reflect (last_reflects (Value.under guise) id id (fun _ => rfl) items cell)
  · exact calls_reflect (reorder_reflects cell _)
  · exact calls_reflect (sorted_reflects items cell)
  · exact needs_reflect _
  · exact needs_reflect _
  · exact needs_reflect _
  · exact needs_reflect _
  · exact search_reflects name

theorem own_buffer_reflects (content : List UInt8) (cell : Nat) (name : String) :
    guise.Offers base (ownBufferMember? content cell name)
      (ownBufferMember? content (guise.order cell) name) := by
  unfold ownBufferMember?
  split
  · exact calls_reflect (reorder_reflects cell _)
  · apply calls_reflect
    apply Mirrors.of_get
    intro store store' links
    rw [links.held]
    exact new_buffer_reflects _
  · let give (octet : UInt8) : Value := .int octet.toNat
    have reflects : guise.Reflects base (popLast content cell give)
        (popLast (content.map id) (guise.order cell) give) :=
      last_reflects id give give (fun _ => rfl) content cell
    rw [List.map_id] at reflects
    exact calls_reflect reflects
  · exact calls_reflect (reorder_reflects cell _)
  · exact needs_reflect _
  · exact needs_reflect _
  · exact needs_reflect _
  · exact needs_reflect _
  · exact .none

theorem buffer_reflects (content : List UInt8) (cell : Nat) (name : String) :
    guise.Offers base (bufferMember? content cell name)
      (bufferMember? content (guise.order cell) name) := by
  have own : guise.Offers base (ownBufferMember? content cell name)
      (ownBufferMember? content (guise.order cell) name) := own_buffer_reflects content cell name
  have shared (content : List UInt8) : guise.Offers base
      (octetsMember? (fun octets => newBuffer octets) content name)
      (octetsMember? (fun octets => newBuffer octets) content name) :=
    octets_reflect new_buffer_reflects content name
  unfold bufferMember?
  dsimp only
  generalize ownBufferMember? content cell name = found at own
  generalize ownBufferMember? content (guise.order cell) name = found' at own
  cases own with
  | some same => exact .some same
  | none =>
      split
      · cases ‹none = some _›
      · apply calls_reflect
        apply Mirrors.of_get
        intro store store' links
        rw [links.held]
        have both := shared (store.held content cell)
        split
        · next action offered =>
            rw [offered] at both
            cases both with
            | some same =>
                cases same with
                | routine _ reflects => exact reflects
        · exact pure_reflects rfl
      · exact .none

theorem member_reflects (value : Value) (name : String) :
    guise.Offers base (value.member? name) ((value.under guise).member? name) := by
  cases value with
  | text content => exact text_reflects _ name
  | bool value => exact int_reflects _ name
  | int value => exact int_reflects _ name
  | float value cell => exact float_reflects _ _ name
  | decimal value cell => exact decimal_reflects _ _ name
  | complex real imaginary cell => exact complex_reflects _ _ name
  | fraction numerator denominator => exact fraction_reflects _ _ name
  | octets content => exact octets_reflect (fun octets => pure_reflects rfl) content name
  | buffer content cell => exact buffer_reflects content cell name
  | tuple items => exact search_reflects name
  | set items =>
      dsimp only [Value.under, Value.member?, setMember?]
      split
      · exact needs_reflect _
      · exact needs_reflect _
      · exact .none
  | list items cell =>
      have reflects : guise.Offers base (listMember? items cell name)
          (listMember? (items.map (Value.under guise)) (guise.order cell) name) :=
        list_reflects items cell name
      rwa [← under_each_eq] at reflects
  | range start stop step => exact range_reflects _ _ _ name
  | date year month day => exact date_reflects _ _ _ name
  | array derived items cell =>
      simp only [Value.under, Value.member?, arrayMember?, under_each_eq, List.length_map]
      split
      · exact calls_reflect (pure_reflects rfl)
      · exact needs_reflect _
      · exact .none
  | _ => exact .none

end Members

end Mustache
