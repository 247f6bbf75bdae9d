import Gradebook.Json.Record
import Gradebook.Proofs.Except

/-! Records written and read back. A record is read member by member, so that it comes back as soon as each of its
members does: those that are always written, those that are left out when they are not set, and those that are null
instead. Only a value that is not itself written as null can be told from one that is not set. -/

namespace Gradebook.Json

variable {α : Type} {encode : α → Json} {decode : Json → Except Flaw α} {low high n : Int} {name other : String}
  {x : α} {value : Option α} {xs : List α} {members : List (String × Json)} {names : List String}

/-- The decoder takes what is written of a value for that value, and not for none. -/
structure Restores (encode : α → Json) (decode : Json → Except Flaw α) (x : α) : Prop where
  decoded : decode (encode x) = .ok x
  shown : encode x ≠ .null

/-! ### Single values -/

theorem toInteger_int (above : low ≤ n) (below : n ≤ high) : toInteger low high (.int n) = .ok n :=
  if_pos ⟨above, below⟩

theorem toInteger_eq_ok {j : Json} :
    toInteger low high j = .ok n ↔ j = .int n ∧ low ≤ n ∧ n ≤ high := by
  unfold toInteger
  split
  · next m =>
    split
    · next inside =>
      constructor
      · intro same
        cases same
        exact ⟨rfl, inside⟩
      · rintro ⟨same, -⟩
        cases same
        rfl
    · next outside =>
      constructor
      · nofun
      · rintro ⟨same, inside⟩
        cases same
        exact absurd inside outside
  · next other =>
    constructor
    · nofun
    · rintro ⟨rfl, -⟩
      exact absurd rfl (other n)

theorem restores_text (s : String) : Restores Json.str toText s := ⟨rfl, nofun⟩

theorem restores_bool (b : Bool) : Restores Json.bool toBool b := ⟨rfl, nofun⟩

/-- A word is read back from the word that was written for it. -/
theorem restores_word {write : α → String} {read : String → Option α} (reads : read (write x) = some x) :
    Restores (fun x => .str (write x)) (toWord read) x := by
  refine ⟨?_, nofun⟩
  rw [toWord, reads]

theorem toOption_nullable (each : ∀ x ∈ value, Restores encode decode x) :
    toOption decode (nullable encode value) = .ok value := by
  cases value with
  | none => rfl
  | some x =>
      obtain ⟨decoded, shown⟩ := each x rfl
      rw [nullable, toOption, decoded]
      · rfl
      · exact shown

theorem restores_list (each : ∀ x ∈ xs, Restores encode decode x) :
    Restores (list encode) (toList decode) xs := by
  refine ⟨?_, nofun⟩
  rw [list, toList, mapM_eq_ok, List.forall₂_map_left_iff, List.forall₂_same]
  exact fun x hx => (each x hx).decoded

theorem toList_eq_ok {j : Json} :
    toList decode j = .ok xs ↔ ∃ parts, j = .arr parts ∧ List.Forall₂ (fun part x => decode part = .ok x) parts xs := by
  cases j with
  | arr parts => simp [toList, mapM_eq_ok]
  | _ => simp [toList]

/-! ### Members -/

@[simp] theorem lookup_member (name other : String) (j : Json) (members : List (String × Json)) :
    List.lookup other ((name, j) :: members) = if other = name then some j else members.lookup other := by
  rw [List.lookup_cons]
  cases same : other == name with
  | true => rw [if_pos (beq_iff_eq.mp same)]
  | false => rw [if_neg (beq_eq_false_iff_ne.mp same)]

@[simp] theorem lookup_memberIfSome (name other : String) (encode : α → Json) (value : Option α) :
    (memberIfSome name encode value).lookup other = if other = name then value.map encode else none := by
  cases value with
  | none => rw [memberIfSome, List.lookup_nil, Option.map_none, ite_self]
  | some x => rw [memberIfSome, lookup_member, List.lookup_nil, Option.map_some]

/-- The members have names of the list, each at most once for each time it is there, in its order. -/
def Named (names : List String) (members : List (String × Json)) : Prop := (members.map Prod.fst).Sublist names

theorem named_fixed (members : List (String × Json)) : Named (members.map Prod.fst) members := List.Sublist.refl _

theorem named_memberIfSome (name : String) (encode : α → Json) (value : Option α) :
    Named [name] (memberIfSome name encode value) := by
  cases value with
  | none => exact List.nil_sublist _
  | some x => exact List.Sublist.refl _

theorem Named.append {names others : List String} {members more : List (String × Json)}
    (first : Named names members) (second : Named others more) : Named (names ++ others) (members ++ more) := by
  rw [Named, List.map_append]
  exact List.Sublist.append first second

/-- Members under known names, none of them twice, are seen as a record. -/
theorem toRecord_obj (known : Named names members) (once : names.Nodup) :
    toRecord names (.obj members) = .ok ⟨members, false⟩ := by
  have single : repeatedName? names members = none := by
    refine List.find?_eq_none.mpr fun name _ => ?_
    have count := List.nodup_iff_count.mp (List.Sublist.nodup known once) name
    rw [List.count, List.countP_map, List.countP_eq_length_filter] at count
    rw [decide_eq_true_eq, Nat.not_lt]
    exact count
  rw [toRecord, single]

namespace Record

variable {r : Record}

theorem required_eq_ok :
    r.required name decode = .ok x ↔ ∃ part, r.members.lookup name = some part ∧ decode part = .ok x := by
  unfold required
  cases r.members.lookup name <;> simp

theorem required_written (written : r.members.lookup name = some (encode x)) (restored : Restores encode decode x) :
    r.required name decode = .ok x := by
  rw [required, written]
  exact restored.decoded

theorem withDefault_written {default : α} (written : r.members.lookup name = some (encode x))
    (restored : Restores encode decode x) : r.withDefault name default decode = .ok x := by
  rw [withDefault, written]
  exact restored.decoded

theorem optional_nullable (written : r.members.lookup name = some (nullable encode value))
    (each : ∀ x ∈ value, Restores encode decode x) : r.optional name decode = .ok value := by
  rw [optional, withDefault, written]
  exact toOption_nullable each

theorem optionalByName_nullable (byName : r.byPosition = false)
    (written : r.members.lookup name = some (nullable encode value)) (each : ∀ x ∈ value, Restores encode decode x) :
    r.optionalByName name decode = .ok value := by
  rw [optionalByName, byName]
  exact optional_nullable written each

theorem optional_written (written : r.members.lookup name = value.map encode)
    (each : ∀ x ∈ value, Restores encode decode x) : r.optional name decode = .ok value := by
  cases value with
  | none => rw [optional, withDefault, written]; rfl
  | some x => exact optional_nullable written each

end Record

end Gradebook.Json
