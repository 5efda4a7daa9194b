import RuleTriggers.Proofs.FirstFault
import RuleTriggers.Saved.SeatMap

/-!
Walking a table. A walk goes to as many seats as a byte leaves of their number, so it goes to all of
them as long as there are fewer than 256. A table that is set up has four at most; a table that is
loaded has as many as were saved.
-/

namespace RuleTriggers

open FirstFault

lemma Seat.length_upTo (count : Nat) : (upTo count).length = count % 256 := by
  simp [upTo]

/-- A seat stands in the place of its number. -/
lemma Seat.getElem?_upTo_eq_some_iff {count i : Nat} {s : Seat} :
    (upTo count)[i]? = some s ↔ i < count % 256 ∧ s.index.toNat = i := by
  rw [upTo, List.getElem?_map, Option.map_eq_some_iff]
  refine ⟨?_, ?_⟩
  · rintro ⟨j, hj, rfl⟩
    obtain ⟨hlt, rfl⟩ := List.getElem?_eq_some_iff.mp hj
    rw [List.length_range] at hlt
    rw [List.getElem_range]
    exact ⟨hlt, UInt8.toNat_ofNat_of_lt' (Nat.lt_trans hlt (Nat.mod_lt count (by decide)))⟩
  · rintro ⟨hlt, rfl⟩
    exact ⟨s.index.toNat, List.getElem?_range hlt, by rw [UInt8.ofNat_toNat]⟩

lemma Seat.eq_of_index_eq {s p : Seat} (h : s.index.toNat = p.index.toNat) : s = p := by
  cases s
  cases p
  exact congrArg Seat.mk (UInt8.toNat_inj.mp h)

lemma Seat.exists_index_eq {i : Nat} (h : i < 256) : ∃ s : Seat, s.index.toNat = i :=
  ⟨⟨.ofNat i⟩, UInt8.toNat_ofNat_of_lt' h⟩

namespace SeatMap

variable {α : Type}

/-- A walk goes to every seat once and in order, be it to look at what the seat has or to change
it. -/
structure VisitsAll (m : SeatMap α) : Prop where
  length_toList : m.toList.length = m.size
  getElem?_toList : ∀ i < m.size, ∃ s a,
    s.index.toNat = i ∧ m.get s = .ok a ∧ m.toList[i]? = some (s, a)
  size_mapSeats : ∀ f, (m.mapSeats f).size = m.size
  get_mapSeats : ∀ f, ∀ i < m.size, ∃ s a,
    s.index.toNat = i ∧ m.get s = .ok a ∧ (m.mapSeats f).get s = .ok (f s a)

section Walk

variable {m : SeatMap α} {s : Seat} {a : α}

lemma get_eq_ok_iff : m.get s = .ok a ↔ m.seats[s.index.toNat]? = some a := by
  unfold get
  cases m.seats[s.index.toNat]? <;> simp

lemma exists_get_eq_ok (h : s.index.toNat < m.size) : ∃ a, m.get s = .ok a :=
  ⟨_, get_eq_ok_iff.mpr (List.getElem?_eq_getElem h)⟩

lemma get_of_size_le (h : m.size ≤ s.index.toNat) :
    m.get s = .error (.noSeat m.size s.index.toNat) := by
  rw [get, List.getElem?_eq_none h]

lemma lt_size_of_get (h : m.get s = .ok a) : s.index.toNat < m.size :=
  (List.getElem?_eq_some_iff.mp (get_eq_ok_iff.mp h)).1

lemma length_toList_eq (m : SeatMap α) : m.toList.length = m.size % 256 := by
  rw [toList, List.length_zip, Seat.length_upTo]
  exact Nat.min_eq_left (Nat.mod_le m.size 256)

lemma getElem?_toList_of_get (hs : s.index.toNat < m.size % 256) (ha : m.get s = .ok a) :
    m.toList[s.index.toNat]? = some (s, a) :=
  List.getElem?_zip_eq_some.mpr
    ⟨Seat.getElem?_upTo_eq_some_iff.mpr ⟨hs, rfl⟩, get_eq_ok_iff.mp ha⟩

lemma get_of_mem_toList (h : (s, a) ∈ m.toList) : m.get s = .ok a := by
  obtain ⟨i, hi⟩ := List.mem_iff_getElem?.mp h
  obtain ⟨hs, ha⟩ := List.getElem?_zip_eq_some.mp hi
  obtain ⟨-, hindex⟩ := Seat.getElem?_upTo_eq_some_iff.mp hs
  rw [get_eq_ok_iff, hindex]
  exact ha

/-- A walk comes to a seat once, so what is found for the seat is what it has. -/
lemma find?_toList_of_get (hs : s.index.toNat < m.size % 256) (ha : m.get s = .ok a) :
    m.toList.find? (·.1 = s) = some (s, a) := by
  have hmem : (s, a) ∈ m.toList := List.mem_of_getElem? (getElem?_toList_of_get hs ha)
  cases hfind : m.toList.find? (·.1 = s) with
  | none => simpa using List.find?_eq_none.mp hfind _ hmem
  | some found =>
    obtain ⟨p, b⟩ := found
    obtain rfl : p = s := by simpa using List.find?_some hfind
    have hb := get_of_mem_toList (List.mem_of_find?_eq_some hfind)
    obtain rfl : b = a := Except.ok.inj (hb.symm.trans ha)
    rfl

lemma size_mapSeats_eq (m : SeatMap α) (f : Seat → α → α) : (m.mapSeats f).size = m.size := by
  have hle : m.toList.length ≤ m.size := m.length_toList_eq ▸ Nat.mod_le m.size 256
  simp only [size, mapSeats, List.length_append, List.length_map, List.length_drop] at hle ⊢
  omega

lemma get_mapSeats_of_get (hs : s.index.toNat < m.size % 256) (ha : m.get s = .ok a)
    (f : Seat → α → α) : (m.mapSeats f).get s = .ok (f s a) := by
  rw [get_eq_ok_iff, mapSeats, List.getElem?_append_left, List.getElem?_map,
    getElem?_toList_of_get hs ha]
  · rfl
  · rwa [List.length_map, length_toList_eq]

/-- A table is what its seats have, as long as there is a seat for each place. -/
lemma eq_of_get_eq {n : SeatMap α} (hsize : m.size = n.size) (h : m.size ≤ 256)
    (hget : ∀ s : Seat, s.index.toNat < m.size → m.get s = n.get s) : m = n := by
  have hseats : m.seats = n.seats := by
    refine List.ext_getElem hsize fun i hm hn => ?_
    obtain ⟨s, rfl⟩ := Seat.exists_index_eq (Nat.lt_of_lt_of_le hm h)
    have hleft : m.get s = .ok _ := get_eq_ok_iff.mpr (List.getElem?_eq_getElem hm)
    have hright : n.get s = .ok _ := get_eq_ok_iff.mpr (List.getElem?_eq_getElem hn)
    exact Except.ok.inj (hleft.symm.trans ((hget s hm).trans hright))
  cases m
  cases n
  exact congrArg SeatMap.mk hseats

lemma visitsAll_of_size_lt (h : m.size < 256) : m.VisitsAll := by
  have hmod : m.size % 256 = m.size := Nat.mod_eq_of_lt h
  have hseat : ∀ i < m.size, ∃ s a, s.index.toNat = i ∧ m.get s = .ok a := fun i hi => by
    obtain ⟨s, rfl⟩ := Seat.exists_index_eq (Nat.lt_trans hi h)
    obtain ⟨a, ha⟩ := exists_get_eq_ok hi
    exact ⟨s, a, rfl, ha⟩
  refine ⟨m.length_toList_eq.trans hmod, fun i hi => ?_, m.size_mapSeats_eq, fun f i hi => ?_⟩
  · obtain ⟨s, a, rfl, ha⟩ := hseat i hi
    exact ⟨s, a, rfl, ha, getElem?_toList_of_get (hmod.symm ▸ hi) ha⟩
  · obtain ⟨s, a, rfl, ha⟩ := hseat i hi
    exact ⟨s, a, rfl, ha, get_mapSeats_of_get (hmod.symm ▸ hi) ha f⟩

end Walk

/-! ### Where tables come from -/

lemma size_of_new {count : Nat} {make : Seat → α} {m : SeatMap α} (h : new count make = .ok m) :
    m.size = count ∧ count ≤ maxSeats := by
  unfold new at h
  split at h
  · cases h
  · split at h
    · cases h
    · next hmax =>
      obtain rfl := Except.ok.inj h
      have hle : count ≤ maxSeats := Nat.not_lt.mp hmax
      refine ⟨?_, hle⟩
      unfold maxSeats at hle
      rw [size, List.length_map, Seat.length_upTo]
      exact Nat.mod_eq_of_lt (by omega)

/-- A table is loaded with all the seats that were saved. -/
lemma ofValue_toValue {read : Reader α} {write : α → Value} {m : SeatMap α}
    (h : ∀ a ∈ m.seats, read (write a) = .ok a) : ofValue read (m.toValue write) = .ok m := by
  have hread : (m.seats.map write).mapM read = .ok m.seats := by
    rw [mapM_eq_ok_iff, List.forall₂_map_left_iff, List.forall₂_same]
    exact h
  simp [ofValue, toValue, Value.readField?, Value.field?, Value.readList, Value.require, hread,
    bind, Except.bind, Except.map]

/-- **Which tables are walked as a whole.** Those with fewer than 256 seats are, so all that are
set up, and no others; of any table a walk goes to the first seats, as many as their number leaves
when divided by 256. -/
theorem visitsAll_iff_size_lt :
    (∀ m : SeatMap α, m.VisitsAll ↔ m.size < 256) ∧
      (∀ count make (m : SeatMap α), new count make = .ok m → m.VisitsAll) ∧
      ∀ m : SeatMap α, m.toList.length = m.size % 256 ∧
        ∀ s a, s.index.toNat < m.size % 256 → m.get s = .ok a →
          m.toList[s.index.toNat]? = some (s, a) := by
  refine ⟨fun m => ⟨fun h => ?_, visitsAll_of_size_lt⟩, fun count make m h => ?_,
    fun m => ⟨m.length_toList_eq, fun s a => getElem?_toList_of_get⟩⟩
  · have hmod := m.length_toList_eq.symm.trans h.length_toList
    rw [← hmod]
    exact Nat.mod_lt m.size (by decide)
  · obtain ⟨hsize, hmax⟩ := size_of_new h
    unfold maxSeats at hmax
    exact visitsAll_of_size_lt (by omega)

/-- Four seats with a count at each, as they are set up. -/
theorem visitsAll_fourSeats :
    ∃ m : SeatMap Nat, new 4 (fun s => 10 * s.index.toNat + 1) = .ok m ∧ m.VisitsAll ∧
      m.toList = [(⟨0⟩, 1), (⟨1⟩, 11), (⟨2⟩, 21), (⟨3⟩, 31)] := by
  have hnew : new 4 (fun s => 10 * s.index.toNat + 1) = .ok ⟨[1, 11, 21, 31]⟩ := rfl
  exact ⟨_, hnew, visitsAll_iff_size_lt.2.1 _ _ _ hnew, rfl⟩

/-- As many seats as there are bytes, with a count of zero at each. -/
def fullTable : SeatMap Int := ⟨List.replicate 256 0⟩

/-- The full table is loaded, and a walk goes to none of its seats. -/
theorem not_visitsAll_fullTable :
    ofValue (Value.readInt .byte 0 255) (fullTable.toValue .int) = .ok fullTable ∧
      fullTable.size = 256 ∧ fullTable.toList = [] ∧ ¬ fullTable.VisitsAll := by
  have hload : ∀ a ∈ fullTable.seats, Value.readInt .byte 0 255 (.int a) = .ok a :=
    fun a ha => by
      rw [List.eq_of_mem_replicate ha]
      rfl
  have hsize : fullTable.size = 256 := List.length_replicate
  have hnone : fullTable.toList = [] := by
    rw [← List.length_eq_zero_iff, length_toList_eq, hsize]
  refine ⟨ofValue_toValue hload, hsize, hnone, fun h => ?_⟩
  have hlength := h.length_toList
  rw [hnone, hsize] at hlength
  cases hlength

end SeatMap

end RuleTriggers
