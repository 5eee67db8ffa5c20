import RowTypes.Json.Record
import RowTypes.Proofs.Json.Printing
import RowTypes.Schema.Encoding

/-!
Records that were written. The members of an object with different keys, all of them known, are the
record that it spells, and a field that was left out because it says nothing is read as if it stood
there.

What is proved:
  1. `objectRecord?_ofMembers`, `record?_of_sublist`: the record of an object is its members.
  2. `Record.required_of_lookup`, `Record.optional_of_lookup`, `Record.optional_orNull`: the fields of a
     record are read from their members.
  3. `asInt32?_int`, `asInt64?_int`: numbers of fixed width are read as they were written.
  4. `isReadable_ofMembers`, `depth_ofMembers_le`: what an object needs to be skipped or shared.
-/

namespace RowTypes

namespace Json

variable {names : List String} {members : List (String × Json)}

/-! ## The record of an object -/

theorem knownMembers_keyed {found : Record} (hknown : ∀ member ∈ members, member.1 ∈ names)
    (hnodup : (members.map Prod.fst).Nodup)
    (hnew : ∀ member ∈ members, found.lookup member.1 = none) :
    knownMembers names found (keyed members) = some (found.reverse ++ members) := by
  induction members generalizing found with
  | nil => simp [keyed, knownMembers]
  | cons member members ih =>
    obtain ⟨key, value⟩ := member
    have hkey : names.contains key := by simpa using hknown (key, value) (by simp)
    rw [List.map_cons, List.nodup_cons] at hnodup
    have hrest : ∀ m ∈ members, List.lookup m.1 ((key, value) :: found) = none := by
      intro m hm
      have hne : (m.1 == key) = false := by
        rw [beq_eq_false_iff_ne]
        intro heq
        exact hnodup.1 (List.mem_map.2 ⟨m, hm, heq⟩)
      rw [List.lookup_cons, hne]
      exact hnew m (by simp [hm])
    have hread := ih (fun m hm => hknown m (by simp [hm])) hnodup.2 hrest
    rw [keyed] at hread
    simp only [keyed, List.map_cons, knownMembers, hkey, if_true, hnew (key, value) (by simp),
      Option.isSome_none, Bool.false_eq_true, if_false, hread, List.reverse_cons, List.append_assoc,
      List.cons_append, List.nil_append]

theorem objectRecord?_ofMembers (hknown : ∀ member ∈ members, member.1 ∈ names)
    (hnodup : (members.map Prod.fst).Nodup) :
    objectRecord? names (ofMembers members) = some members :=
  knownMembers_keyed hknown hnodup (by simp)

theorem objectRecord?_of_sublist {keys : List String} (h : (members.map Prod.fst).Sublist keys)
    (hknown : keys ⊆ names) (hnodup : keys.Nodup) :
    objectRecord? names (ofMembers members) = some members :=
  objectRecord?_ofMembers (fun _ hm => hknown (h.subset (List.mem_map_of_mem hm))) (hnodup.sublist h)

theorem record?_of_sublist (h : (members.map Prod.fst).Sublist names) (hnodup : names.Nodup) :
    record? names (ofMembers members) = some members :=
  objectRecord?_of_sublist h (List.Subset.refl _) hnodup

/-! ## Members that may be left out -/

variable {key : String} {value : Option Json}

@[simp]
theorem lookup_optionalMember_self : (optionalMember key value).lookup key = value := by
  cases value <;> simp [optionalMember]

@[simp]
theorem lookup_optionalMember_of_ne {other : String} (h : other ≠ key) :
    (optionalMember key value).lookup other = none := by
  cases value <;> simp [optionalMember, h]

theorem forall_mem_optionalMember {P : String × Json → Prop} :
    (∀ member ∈ optionalMember key value, P member) ↔ ∀ j ∈ value, P (key, j) := by
  cases value <;> simp [optionalMember]

theorem map_fst_optionalMember_sublist : ((optionalMember key value).map Prod.fst).Sublist [key] := by
  cases value <;> simp [optionalMember]

/-! ## Fields -/

namespace Record

variable {α : Type} {record : Record} {name : String} {read : Json → Option α} {a : α}

theorem required_of_lookup {j : Json} (h : record.lookup name = some j) (hread : read j = some a) :
    record.required name read = some a := by
  simp [required, h, hread]

theorem optional_of_lookup {j : Json} {default : α} (h : record.lookup name = some j)
    (hread : read j = some a) : record.optional name default read = some a := by
  simp [optional, h, hread]

theorem optional_of_missing {default : α} (h : record.lookup name = none) :
    record.optional name default read = some default := by
  simp [optional, h]

theorem orNull?_of_ne_null {j : Json} (hj : j ≠ .null) : orNull? read j = (read j).map some := by
  unfold orNull?
  split
  · exact absurd rfl hj
  · rfl

/-- A field that is left out where there is no value. -/
theorem optional_orNull {write : α → Json} {value : Option α}
    (h : record.lookup name = value.map write) (hnull : ∀ a, write a ≠ .null)
    (hread : ∀ a, read (write a) = some a) :
    record.optional name none (orNull? read) = some value := by
  cases value with
  | none => exact optional_of_missing h
  | some a =>
    exact optional_of_lookup h (by rw [orNull?_of_ne_null (hnull a), hread, Option.map_some])

end Record

theorem asInt32?_int (n : Int32) : asInt32? (int n.toInt) = some n := by
  change (if Int32.minValue.toInt ≤ n.toInt ∧ n.toInt ≤ Int32.maxValue.toInt then
    some (Int32.ofInt n.toInt) else none) = some n
  rw [if_pos ⟨n.minValue_le_toInt, n.toInt_le⟩, Int32.ofInt_toInt]

theorem asInt64?_int (n : Int64) : asInt64? (int n.toInt) = some n := by
  change (if Int64.minValue.toInt ≤ n.toInt ∧ n.toInt ≤ Int64.maxValue.toInt then
    some (Int64.ofInt n.toInt) else none) = some n
  rw [if_pos ⟨n.minValue_le_toInt, n.toInt_le⟩, Int64.ofInt_toInt]

namespace Record

variable {record : Record} {name : String}

theorem required_str {s : String} (h : record.lookup name = some (str s)) :
    record.required name asString? = some s :=
  required_of_lookup h rfl

theorem optional_str {s default : String} (h : record.lookup name = some (str s)) :
    record.optional name default asString? = some s :=
  optional_of_lookup h rfl

theorem optional_bool {b default : Bool} (h : record.lookup name = some (.bool b)) :
    record.optional name default asBool? = some b :=
  optional_of_lookup h rfl

theorem optional_str_orNull {value : Option String} (h : record.lookup name = value.map str) :
    record.optional name none (orNull? asString?) = some value :=
  optional_orNull h (by simp [str]) fun _ => rfl

theorem optional_int32_orNull {value : Option Int32}
    (h : record.lookup name = value.map fun n => int n.toInt) :
    record.optional name none (orNull? asInt32?) = some value :=
  optional_orNull h (by simp [int]) asInt32?_int

end Record

/-! ## Readable values -/

theorem isReadable_ofMembers :
    isReadable (ofMembers members) = true ↔ ∀ member ∈ members, isReadable member.2 = true := by
  rw [ofMembers, isReadable]
  induction members with
  | nil => simp [membersReadable]
  | cons member members ih => simp [membersReadable, ih]

theorem depth_ofMembers_le {levels : Nat} (h : ∀ member ∈ members, depth member.2 ≤ levels) :
    depth (ofMembers members) ≤ levels + 1 := by
  have hmembers : depthOfMembers (keyed members) ≤ levels := by
    induction members with
    | nil => simp [keyed, depthOfMembers]
    | cons member members ih =>
      have hrest := ih fun m hm => h m (by simp [hm])
      exact max_le (h member (by simp)) hrest
  rw [ofMembers, depth]
  exact Nat.succ_le_succ hmembers

theorem isReadable_int {i : Int} (h : i.natAbs < 100000000000000000000) : isReadable (int i) = true := by
  have hlength : (Nat.toDigits 10 i.natAbs).length ≤ 20 :=
    (Nat.length_toDigits_le_iff (by decide) (by decide)).2 h
  have hsmall : ((Nat.toDigits 10 i.natAbs).length : Int) + 0 < 300 := by omega
  simp only [int, isReadable, JsonNumber.isFinite, JsonNumber.fits, hsmall, or_true, if_true]

/-- A value that is printed without loss, that can be read, and that has at most so many levels. -/
structure Written (levels : Nat) (j : Json) : Prop where
  plain : Plain j
  readable : isReadable j = true
  depth_le : depth j ≤ levels

namespace Written

variable {levels : Nat}

theorem str (s : String) : Written levels (Json.str s) :=
  ⟨.str s, rfl, Nat.zero_le _⟩

theorem bool (b : Bool) : Written levels (.bool b) :=
  ⟨.bool b, rfl, Nat.zero_le _⟩

theorem int {i : Int} (h : i.natAbs < 100000000000000000000) : Written levels (Json.int i) :=
  ⟨.int i, isReadable_int h, Nat.zero_le _⟩

theorem int32 (n : Int32) : Written levels (Json.int n.toInt) := by
  have hlow := n.le_toInt
  have hhigh := n.toInt_lt
  exact int (by omega)

theorem int64 (n : Int64) : Written levels (Json.int n.toInt) := by
  have hlow := n.le_toInt
  have hhigh := n.toInt_lt
  exact int (by omega)

theorem ofMembers (h : ∀ member ∈ members, Written levels member.2) :
    Written (levels + 1) (Json.ofMembers members) where
  plain := .object fun member hm => (h member hm).plain
  readable := isReadable_ofMembers.2 fun member hm => (h member hm).readable
  depth_le := depth_ofMembers_le fun member hm => (h member hm).depth_le

end Written

/-! ## Lists -/

theorem asList?_map {α β : Type} {read : Json → Option β} {write : α → Json} {f : α → β}
    (h : ∀ a, read (write a) = some (f a)) (items : List α) :
    asList? read (.array (items.map write)) = some (items.map f) := by
  rw [asList?]
  induction items with
  | nil => rfl
  | cons item items ih => simp [h, ih]

end Json

end RowTypes
