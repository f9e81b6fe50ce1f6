import Mustache.Proofs.Sort
import Mustache.Proofs.Value.Compared
import Mustache.Proofs.Value.Deeds

/-!
What values of the built-in types offer by name. Whatever an operation comes to is made of data and
of the items of the value, so that what is true of those is true of it; and it can fail only in the
ways in which values fail.
-/

namespace Mustache

set_option autoImplicit false

def Builtin.action : Builtin → Access Value
  | .part give => give
  | .routine _ action => action

def Offers (allowed : Fault → Prop) (good : Value → Prop) (member : Option Builtin) : Prop :=
  ∀ builtin ∈ member, Upholds allowed good builtin.action

/-- Values may fail in their own ways, and what is good of the parts of a value is good of the value
as well, unless it can be called or does something by itself. -/
structure Value.Regular (allowed : Fault → Prop) (good : Value → Prop) : Prop where
  own : ∀ cause, allowed (.value cause)
  of_parts : ∀ {value : Value}, (∀ routine, value ≠ .routine routine) → value.deeds = [] →
    (∀ part ∈ value.parts, good part) → good value

theorem Value.Regular.leaf {allowed : Fault → Prop} {good : Value → Prop}
    (regular : Value.Regular allowed good) {value : Value}
    (other : ∀ routine, value ≠ .routine routine) (quiet : value.deeds = [])
    (leaf : value.parts = []) : good value := by
  refine regular.of_parts other quiet ?_
  rw [leaf]
  exact List.forall_mem_nil _

/-- That a value does nothing more is true of all that is made of its parts. -/
theorem Value.does_only_regular {allowed : Deed → Prop}
    (own : ∀ cause, allowed (.raise (.value cause))) :
    Value.Regular (fun fault => allowed (.raise fault)) (Value.DoesOnly allowed) where
  own := own
  of_parts := by
    intro value _ quiet parts
    refine does_only_of_parts ?_ parts
    rw [quiet]
    exact List.forall_mem_nil _

section Members

open Number

variable {allowed : Fault → Prop} {good : Value → Prop}

theorem offers_none : Offers allowed good none := nofun

theorem offers_reads {give : Access Value} (gives : Upholds allowed good give) :
    Offers allowed good (reads give) := by
  rintro _ ⟨⟩
  exact gives

theorem offers_calls {params : List Param} {action : Access Value}
    (gives : Upholds allowed good action) : Offers allowed good (calls params action) := by
  rintro _ ⟨⟩
  exact gives

theorem gives_each {α : Type} {give : α → Access Value}
    (each : ∀ piece, Upholds allowed good (give piece)) (pieces : List α) :
    Upholds allowed (fun items => ∀ item ∈ items, good item) (pieces.mapM give) := by
  induction pieces with
  | nil => exact .of_pure (List.forall_mem_nil _)
  | cons piece pieces induction =>
      rw [List.mapM_cons]
      apply Upholds.of_bind (each piece)
      intro item only
      apply Upholds.of_bind induction
      intro items rest
      exact .of_pure (List.forall_mem_cons.mpr ⟨only, rest⟩)

variable (regular : Value.Regular allowed good)
include regular

theorem gives_bare {value : Value} (other : ∀ routine, value ≠ .routine routine)
    (quiet : value.deeds = []) (leaf : value.parts = []) :
    Upholds allowed good (pure value : Access Value) := .of_pure (regular.leaf other quiet leaf)

theorem Offers.used {member : Option Builtin} (offers : Offers allowed good member) :
    Upholds allowed good ((member.map Builtin.used).getD (pure .missing)) := by
  cases member with
  | none => exact gives_bare regular nofun rfl rfl
  | some builtin =>
      have gives := offers builtin rfl
      cases builtin with
      | part give => exact gives
      | routine params action =>
          dsimp only [Option.map, Option.getD, Builtin.used]
          split
          · exact gives_bare regular nofun rfl rfl
          · exact gives

theorem gives_fail (cause : ValueFault) : Upholds allowed good (fail cause : Access Value) :=
  .of_throw (regular.own cause)

theorem offers_needs (params : List Param) : Offers allowed good (needs params) :=
  offers_calls (gives_fail regular _)

theorem gives_text (content : List Char) : Upholds allowed good (giveText content) :=
  gives_bare regular nofun rfl rfl

theorem gives_list {items : List Value} (each : ∀ item ∈ items, good item) :
    Upholds allowed good (newList items : Access Value) :=
  .of_state fun _ => regular.of_parts nofun rfl each

theorem gives_texts (pieces : List (List Char)) : Upholds allowed good (giveTexts pieces) := by
  apply gives_list regular
  intro item member
  obtain ⟨piece, _, rfl⟩ := List.mem_map.mp member
  exact regular.leaf nofun rfl rfl

theorem gives_float (x : Double) : Upholds allowed good (newFloat x : Access Value) :=
  .of_state fun _ => regular.leaf nofun rfl rfl

theorem gives_decimal (x : Exact) : Upholds allowed good (newDecimal x : Access Value) :=
  .of_state fun _ => regular.leaf nofun rfl rfl

theorem gives_complex (real imaginary : Double) :
    Upholds allowed good (newComplex real imaginary : Access Value) :=
  .of_state fun _ => regular.leaf nofun rfl rfl

theorem gives_buffer (octets : List UInt8) :
    Upholds allowed good (newBuffer octets : Access Value) :=
  .of_state fun _ => regular.leaf nofun rfl rfl

theorem gives_reorder (cell : Nat) (change : Array Nat → Array Nat) :
    Upholds allowed good (reorder cell change) :=
  .of_modify (gives_bare regular nofun rfl rfl)

theorem gives_last {α : Type} {items : List α} {give : α → Value}
    (each : ∀ item ∈ items, good (give item)) (cell : Nat) :
    Upholds allowed good (popLast items cell give) := by
  apply Upholds.of_get
  intro store
  dsimp only
  split
  · exact gives_fail regular _
  · next index _ =>
      apply Upholds.of_modify
      cases found : items[index]? with
      | none => exact gives_fail regular _
      | some item => exact .of_pure (each item (List.mem_of_getElem? found))

theorem gives_sorted (items : List Value) (cell : Nat) :
    Upholds allowed good (sortList items cell) := by
  apply Upholds.of_get
  intro store
  dsimp only
  apply Upholds.of_set
  split
  · next fault failed =>
      refine .of_throw (Sort.sort_keeps ?_ _ _ failed)
      intro i j
      split
      · exact Value.less_keeps regular.own store _ _
      · trivial
  · exact gives_bare regular nofun rfl rfl

theorem text_offers (content : List Char) (name : String) :
    Offers allowed good (textMember? content name) := by
  have encodes : Upholds allowed good (if Text.isEncodable content
      then pure (.octets (Text.encode (String.ofList content))) else fail .unencodable) := by
    split
    · exact gives_bare regular nofun rfl rfl
    · exact gives_fail regular _
  unfold textMember?
  split
  -- All but one of the members are conversions and tests that cannot fail.
  all_goals first
    | with_reducible exact offers_none
    | with_reducible exact offers_needs regular _
    | with_reducible exact offers_calls (gives_text regular _)
    | with_reducible exact offers_calls (gives_texts regular _)
    | with_reducible exact offers_calls encodes
    | exact offers_calls (gives_bare regular nofun rfl rfl)

theorem octets_offer {give : List UInt8 → Access Value}
    (each : ∀ octets, Upholds allowed good (give octets)) (content : List UInt8) (name : String) :
    Offers allowed good (octetsMember? give content name) := by
  have gives (pieces : List (List UInt8)) : Upholds allowed good (do
      let items ← pieces.mapM give
      (newList items : Access Value)) :=
    .of_bind (gives_each each pieces) fun items only => gives_list regular only
  unfold octetsMember?
  dsimp only
  split
  · apply offers_calls
    split
    · exact gives_bare regular nofun rfl rfl
    · exact gives_fail regular _
  all_goals first
    | with_reducible exact offers_none
    | with_reducible exact offers_needs regular _
    | with_reducible exact offers_calls (each _)
    | with_reducible exact offers_calls (gives _)

theorem gives_ratio (numerator denominator : Int) :
    Upholds allowed good
      (pure (.tuple [.int numerator, .int denominator]) : Access Value) := by
  refine .of_pure (regular.of_parts nofun rfl ?_)
  intro item member
  rcases List.mem_cons.mp member with rfl | member
  · exact regular.leaf nofun rfl rfl
  · cases List.mem_singleton.mp member
    exact regular.leaf nofun rfl rfl

theorem int_offers (n : Int) (name : String) : Offers allowed good (intMember? n name) := by
  have octet : Upholds allowed good (if 0 ≤ n && n < 256 then pure (.octets [UInt8.ofNat n.toNat])
      else fail .octetOutOfRange) := by
    split
    · exact gives_bare regular nofun rfl rfl
    · exact gives_fail regular _
  unfold intMember?
  split
  all_goals first
    | with_reducible exact offers_none
    | with_reducible exact offers_needs regular _
    | with_reducible exact offers_calls (gives_ratio regular _ _)
    | with_reducible exact offers_calls octet
    | exact offers_reads (gives_bare regular nofun rfl rfl)
    | exact offers_calls (gives_bare regular nofun rfl rfl)

theorem float_offers (x : Double) (cell : Nat) (name : String) :
    Offers allowed good (floatMember? x cell name) := by
  unfold floatMember?
  split
  · exact offers_reads (gives_bare regular nofun rfl rfl)
  · exact offers_reads (gives_float regular _)
  · exact offers_calls (gives_bare regular nofun rfl rfl)
  · exact offers_calls (gives_bare regular nofun rfl rfl)
  · exact offers_calls (gives_bare regular nofun rfl rfl)
  · apply offers_calls
    split
    · exact gives_ratio regular _ _
    · exact gives_fail regular _
    · exact gives_fail regular _
  · exact offers_needs regular _
  · exact offers_none

theorem complex_offers (real imaginary : Double) (name : String) :
    Offers allowed good (complexMember? real imaginary name) := by
  unfold complexMember?
  split
  all_goals first
    | with_reducible exact offers_none
    | with_reducible exact offers_reads (gives_float regular _)
    | with_reducible exact offers_calls (gives_complex regular _ _)

theorem gives_exact (result : Except ContextFault Exact) :
    Upholds allowed good (giveExact result) := by
  cases result with
  | ok value => exact gives_decimal regular value
  | error cause => exact gives_fail regular _

theorem gives_exact_ratio (value : Exact) : Upholds allowed good (exactRatio value) := by
  cases value with
  | finite value => exact gives_ratio regular _ _
  | infinite negative => exact gives_fail regular _
  | nan negative signalling payload => exact gives_fail regular _

theorem gives_named (type : String) {parts : List (String × Value)} (texts : List String)
    (each : ∀ part ∈ parts, good part.2) : Upholds allowed good (giveNamed type parts texts) := by
  refine .of_bind (.of_state fun _ => trivial) fun cell (_ : Anything cell) => .of_pure ?_
  refine regular.of_parts nofun rfl ?_
  intro part member
  have named : ∃ name, (name, part) ∈ parts := by
    simpa [Value.parts, HostObject.parts] using member
  obtain ⟨name, there⟩ := named
  exact each _ there

theorem gives_exact_parts (value : Exact) : Upholds allowed good (exactParts value) := by
  have int (n : Int) : good (.int n) := regular.leaf nofun rfl rfl
  have text (content : String) : good (.text content) := regular.leaf nofun rfl rfl
  have digits (numbers : List Nat) :
      good (.tuple (numbers.map fun (digit : Nat) => .int digit)) := by
    refine regular.of_parts nofun rfl ?_
    intro part member
    obtain ⟨digit, _, rfl⟩ := List.mem_map.mp member
    exact int digit
  unfold exactParts
  dsimp only
  split
  all_goals
    apply gives_named regular
    simp only [List.forall_mem_cons]
  · exact ⟨int _, digits _, int _, List.forall_mem_nil _⟩
  · exact ⟨int _, digits _, text _, List.forall_mem_nil _⟩
  · exact ⟨int _, digits _, text _, List.forall_mem_nil _⟩

theorem decimal_offers (value : Exact) (cell : Nat) (name : String) :
    Offers allowed good (decimalMember? value cell name) := by
  unfold decimalMember?
  split
  all_goals first
    | with_reducible exact offers_none
    | with_reducible exact offers_needs regular _
    | with_reducible exact offers_calls (gives_exact regular _)
    | with_reducible exact offers_calls (gives_decimal regular _)
    | with_reducible exact offers_reads (gives_decimal regular _)
    | with_reducible exact offers_calls (gives_exact_ratio regular _)
    | with_reducible exact offers_calls (gives_exact_parts regular _)
    | exact offers_reads (gives_bare regular nofun rfl rfl)
    | exact offers_calls (gives_bare regular nofun rfl rfl)

theorem fraction_offers (numerator : Int) (denominator : Nat) (name : String) :
    Offers allowed good (fractionMember? numerator denominator name) := by
  have whole (numerator : Int) (denominator : Nat) :
      Upholds allowed good (pure (.fraction numerator denominator) : Access Value) :=
    gives_bare regular nofun rfl rfl
  unfold fractionMember?
  split
  · exact offers_reads (whole _ _)
  · exact offers_calls (whole _ _)
  · exact offers_reads (gives_bare regular nofun rfl rfl)
  · exact offers_reads (gives_bare regular nofun rfl rfl)
  · exact offers_reads (gives_bare regular nofun rfl rfl)
  · exact offers_calls (gives_ratio regular _ _)
  · dsimp only
    exact offers_calls (whole _ _)
  · exact offers_needs regular _
  · exact offers_needs regular _
  · exact offers_none

theorem search_offers (name : String) : Offers allowed good (searchMember? name) := by
  unfold searchMember?
  split
  · exact offers_needs regular _
  · exact offers_needs regular _
  · exact offers_none

theorem list_offers {items : List Value} (each : ∀ item ∈ items, good item)
    (cell : Nat) (name : String) : Offers allowed good (listMember? items cell name) := by
  have copies : Upholds allowed good (do newList ((← get).held items cell) : Access Value) := by
    apply Upholds.of_get
    intro store
    exact gives_list regular fun item member => each item (Store.mem_of_mem_held member)
  unfold listMember?
  split
  · exact offers_calls (gives_reorder regular _ _)
  · exact offers_calls copies
  · exact offers_calls (gives_last regular each cell)
  · exact offers_calls (gives_reorder regular _ _)
  · exact offers_calls (gives_sorted regular items cell)
  · exact offers_needs regular _
  · exact offers_needs regular _
  · exact offers_needs regular _
  · exact offers_needs regular _
  · exact search_offers regular name

theorem own_buffer_offers (content : List UInt8) (cell : Nat) (name : String) :
    Offers allowed good (ownBufferMember? content cell name) := by
  have copies : Upholds allowed good (do newBuffer ((← get).held content cell) : Access Value) := by
    apply Upholds.of_get
    intro store
    exact gives_buffer regular _
  have int (octet : UInt8) : good (.int octet.toNat) := regular.leaf nofun rfl rfl
  have pops : Upholds allowed good (popLast content cell fun octet => .int octet.toNat) :=
    gives_last regular (fun octet _ => int octet) cell
  unfold ownBufferMember?
  split
  · exact offers_calls (gives_reorder regular _ _)
  · exact offers_calls copies
  · exact offers_calls pops
  · exact offers_calls (gives_reorder regular _ _)
  · exact offers_needs regular _
  · exact offers_needs regular _
  · exact offers_needs regular _
  · exact offers_needs regular _
  · exact offers_none

theorem buffer_offers (content : List UInt8) (cell : Nat) (name : String) :
    Offers allowed good (bufferMember? content cell name) := by
  have shared (content : List UInt8) :=
    octets_offer regular (fun octets => gives_buffer regular octets) content name
  unfold bufferMember?
  dsimp only
  split
  · next found =>
      rw [← found]
      exact own_buffer_offers regular content cell name
  · apply offers_calls
    apply Upholds.of_get
    intro store
    split
    · next found => exact shared _ _ found
    · exact gives_bare regular nofun rfl rfl
  · exact offers_none

theorem range_offers (start stop step : Int) (name : String) :
    Offers allowed good (rangeMember? start stop step name) := by
  unfold rangeMember?
  split
  all_goals first
    | with_reducible exact offers_none
    | exact offers_reads (gives_bare regular nofun rfl rfl)

theorem date_offers (year month day : Nat) (name : String) :
    Offers allowed good (dateMember? year month day name) := by
  have int (n : Int) : good (.int n) := regular.leaf nofun rfl rfl
  have given : Upholds allowed good oneDay := by
    refine .of_bind (.of_state fun _ => trivial) fun cell (_ : Anything cell) => .of_pure ?_
    refine regular.of_parts nofun rfl ?_
    simp [Value.parts, HostObject.parts, int]
  unfold dateMember?
  split
  all_goals first
    | with_reducible exact offers_none
    | with_reducible exact offers_needs regular _
    | with_reducible exact offers_reads given
    | exact offers_reads (gives_bare regular nofun rfl rfl)

/-- An item is good if it can be taken out of a list. -/
theorem member_offers {value : Value}
    (listed : ∀ items cell, value = .list items cell → ∀ item ∈ items, good item) (name : String) :
    Offers allowed good (value.member? name) := by
  cases value with
  | text content => exact text_offers regular content.toList name
  | bool value => exact int_offers regular _ name
  | int value => exact int_offers regular value name
  | float value cell => exact float_offers regular value cell name
  | decimal value cell => exact decimal_offers regular value cell name
  | complex real imaginary _ => exact complex_offers regular real imaginary name
  | fraction numerator denominator => exact fraction_offers regular numerator denominator name
  | octets content =>
      have gives (octets : List UInt8) : Upholds allowed good (pure (.octets octets) : Access Value) :=
        gives_bare regular nofun rfl rfl
      exact octets_offer regular gives content name
  | buffer content cell => exact buffer_offers regular content cell name
  | tuple items => exact search_offers regular name
  | set items =>
      dsimp only [Value.member?, setMember?]
      split
      · exact offers_needs regular _
      · exact offers_needs regular _
      · exact offers_none
  | list items cell => exact list_offers regular (listed items cell rfl) cell name
  | range start stop step => exact range_offers regular start stop step name
  | date year month day => exact date_offers regular year month day name
  | array _ items _ =>
      dsimp only [Value.member?, arrayMember?]
      split
      · exact offers_calls (gives_bare regular nofun rfl rfl)
      · exact offers_needs regular _
      · exact offers_none
  | _ => exact offers_none

end Members

end Mustache
