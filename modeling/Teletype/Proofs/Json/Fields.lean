import Teletype.Json.Record
import Teletype.Proofs.Json.Spelled
import Teletype.Sequence.Json

/-!
# Reading what was written

How simple values, lists and records are found in the values that they were written as. A
record is found whole, whichever of its fields were written, as long as they stand in the
order of its names (`record?_record`), so what is read of a record is settled field by field.
-/

namespace Teletype.Json

variable {α : Type} {write : α → Json} {read? : Json → Option α}

/-! ## Simple values -/

theorem natBelow?_nat {bound n : Nat} (h : n < bound) : natBelow? bound (nat n) = some n := by
  simp [natBelow?, nat, h]

theorem count?_nat {n : Nat} (h : n < UInt64.size) : count? (nat n) = some n :=
  natBelow?_nat h

@[simp] theorem byte?_nat (b : UInt8) : byte? (nat b.toNat) = some b := by
  rw [byte?, natBelow?_nat b.toNat_lt_size, Option.map_some, UInt8.ofNat_toNat]

@[simp] theorem word?_nat (w : UInt16) : word? (nat w.toNat) = some w := by
  rw [word?, natBelow?_nat w.toNat_lt_size, Option.map_some, UInt16.ofNat_toNat]

@[simp] theorem bool?_bool (b : Bool) : bool? (.bool b) = some b := rfl

@[simp] theorem text?_text (s : String) : text? (text s) = some s := rfl

@[simp] theorem char?_toString (c : Char) : char? (text c.toString) = some c := by
  simp [char?, Char.toString]

/-! ## Lists -/

theorem writable_list (h : ∀ a, Writable (write a)) (values : List α) :
    Writable (.array (values.map write)) :=
  .array (by simp [h])

/-- A list is read if its elements are. -/
theorem list?_array (h : ∀ a, read? (write a) = some a) (values : List α) :
    list? read? (.array (values.map write)) = some values := by
  show (values.map write).mapM read? = some values
  induction values with
  | nil => rfl
  | cons a rest ih =>
    rw [List.map_cons, List.mapM_cons, h a, ih]
    rfl

theorem writable_nats (ns : List Nat) : Writable (.nats ns) :=
  writable_list .nat ns

theorem list?_nats {toNat : α → Nat} (h : ∀ a, read? (nat (toNat a)) = some a) (values : List α) :
    list? read? (.nats (values.map toNat)) = some values := by
  rw [nats, List.map_map]
  exact list?_array h values

/-! ## Records -/

theorem named?_map (members : List (String × Json)) :
    named? (members.map fun (name, value) => (some name, value)) = some members := by
  induction members with
  | nil => rfl
  | cons member rest ih =>
    rw [named?] at ih ⊢
    rw [List.map_cons, List.mapM_cons, ih]
    rfl

/-- Fields under some of the names, in their order, are all selected. -/
theorem select?_eq_some {names : List String} {members : List (String × Json)}
    (h : (members.map (·.1)).Sublist names) (hnames : names.Nodup) :
    select? names members = some members := by
  have hall : members.filter (fun (name, _) => names.contains name) = members :=
    List.filter_eq_self.mpr fun member hmem =>
      List.contains_iff_mem.mpr (h.subset (List.mem_map_of_mem hmem))
  have hnodup : (members.map (·.1)).Nodup := h.nodup hnames
  simp only [select?]
  rw [hall, if_pos hnodup]

/-- **A record is found with the fields that were written.** -/
theorem record?_record {names : List String} {members : List (String × Json)}
    (h : (members.map (·.1)).Sublist names) (hnames : names.Nodup) :
    (record members).record? names = some { fields := members, byName := true } := by
  simp only [record, record?, named?_map, bind, Option.bind, select?_eq_some h hnames]

namespace Record

variable {byName : Bool}

@[simp] theorem find?_nil (name : String) :
    ({ fields := [], byName } : Record).find? name = none :=
  rfl

@[simp] theorem find?_cons (name other : String) (value : Json) (rest : List (String × Json)) :
    ({ fields := (other, value) :: rest, byName } : Record).find? name =
      if name = other then some value else ({ fields := rest, byName } : Record).find? name := by
  rw [find?, List.lookup_cons]
  split <;> simp_all [find?]

end Record

end Teletype.Json
