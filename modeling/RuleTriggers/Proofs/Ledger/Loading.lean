import RuleTriggers.Proofs.FirstFault
import RuleTriggers.Table

/-!
What loading comes to when several things are wrong. A ledger is loaded in two passes, all sources
before the first spec; a table is loaded seat by seat, both passes of one before the next. In each
pass the first fault decides, so what is loaded is either all there or not at all.
-/

namespace RuleTriggers

open FirstFault

/-- An entry as it is written: nothing has been made of its source. -/
structure RawEntry where
  spec : Text
  source : Text

namespace RawEntry

/-- The entry with its source read. -/
def read (e : RawEntry) : Except VocabularyError Entry := (Source.parse e.source).map (⟨e.spec, ·⟩)

/-- The values that an entry may be written as: an object that has both fields, whatever else it
has, or the list of the two parts. -/
inductive WrittenAs (e : RawEntry) : Value → Prop
  | fields {fields : List (Text × Value)}
      (hspec : Value.field? fields Entry.specField = some (.text e.spec))
      (hsource : Value.field? fields Entry.sourceField = some (.text e.source)) :
      WrittenAs e (.object fields)
  | parts : WrittenAs e (.list [.text e.spec, .text e.source])

/-- The values that a ledger may be written as that has these entries. -/
inductive AllWrittenAs (es : List RawEntry) : Value → Prop
  | list {vs : List Value} (h : List.Forall₂ WrittenAs es vs) : AllWrittenAs es (.list vs)

/-- The values that a table may be written as that has these entries at its seats. -/
inductive SeatsWrittenAs (seats : List (List RawEntry)) : Value → Prop
  | fields {fields : List (Text × Value)} {vs : List Value}
      (hseats : Value.field? fields SeatMap.seatsField = some (.list vs))
      (h : List.Forall₂ AllWrittenAs seats vs) : SeatsWrittenAs seats (.object fields)
  | parts {vs : List Value} (h : List.Forall₂ AllWrittenAs seats vs) :
      SeatsWrittenAs seats (.list [.list vs])

end RawEntry

/-- What loading a ledger comes to, by what is written: the first source that is none, else the
first spec that does not compile, else everything registered in order. -/
inductive Ledger.Loads (es : List RawEntry) : Except LoadError Ledger → Prop
  | sourceFault {e : VocabularyError} (h : Fails RawEntry.read es e) :
      Loads es (.error (.vocabulary e))
  | specFault {entries : List Entry} {e : RewardError}
      (hread : List.Forall₂ (fun r entry => r.read = .ok entry) es entries)
      (h : Fails Entry.compile entries e) : Loads es (.error (.reward e))
  | ledger {entries : List Entry} {ts : List Trigger}
      (hread : List.Forall₂ (fun r entry => r.read = .ok entry) es entries)
      (hcompile : List.Forall₂ (fun entry t => entry.compile = .ok t) entries ts) :
      Loads es (.ok (.ofList ts))

/-- What loading a table comes to: the fault of the first seat that has one, else all ledgers. -/
inductive Table.Loads (seats : List (List RawEntry)) : Except LoadError Table → Prop
  | fault {before : List (List RawEntry)} {es : List RawEntry} {after : List (List RawEntry)}
      {e : LoadError} (hseats : seats = before ++ es :: after)
      (hbefore : ∀ b ∈ before, ∃ l, Ledger.Loads b (.ok l)) (hes : Ledger.Loads es (.error e)) :
      Loads seats (.error e)
  | table {ls : List Ledger}
      (h : List.Forall₂ (fun es l => Ledger.Loads es (.ok l)) seats ls) : Loads seats (.ok ⟨ls⟩)

/-! ### Ledgers -/

lemma RawEntry.ofValue_eq {e : RawEntry} {v : Value} (h : e.WrittenAs v) :
    Entry.ofValue v = e.read.mapError .vocabulary := by
  unfold RawEntry.read
  cases h with
  | fields hspec hsource =>
    cases hparse : Source.parse e.source <;>
      simp [Entry.ofValue, Entry.ofFields, Value.readField?, hspec, hsource, Source.ofValue,
        Value.readText, Value.require, hparse, bind, Except.bind, Except.map, Except.mapError]
  | parts =>
    cases hparse : Source.parse e.source <;>
      simp [Entry.ofValue, Entry.ofParts, Source.ofValue, Value.readText, hparse, bind,
        Except.bind, Except.map, Except.mapError]

namespace Ledger

/-- Reads all entries, then compiles them. -/
def ofRaw (es : List RawEntry) : Except LoadError Ledger := do
  let entries ← (es.mapM RawEntry.read).mapError .vocabulary
  (ofEntries entries).mapError .reward

lemma ofValue_eq_ofRaw {es : List RawEntry} {v : Value} (h : RawEntry.AllWrittenAs es v) :
    ofValue v = ofRaw es := by
  obtain @⟨vs, h⟩ := h
  have hread : vs.mapM Entry.ofValue = (es.mapM RawEntry.read).mapError .vocabulary := by
    rw [← mapM_mapError]
    exact mapM_eq_of_forall₂ (h.imp fun e v hev => RawEntry.ofValue_eq hev).flip
  have hvalue : ofValue (.list vs) =
      (vs.mapM Entry.ofValue >>= fun entries => (ofEntries entries).mapError .reward) := rfl
  rw [hvalue, hread]
  rfl

/-- Loading always comes to something. -/
lemma loads_ofRaw (es : List RawEntry) : Loads es (ofRaw es) := by
  unfold ofRaw
  cases hread : es.mapM RawEntry.read with
  | error e => exact .sourceFault (mapM_eq_error_iff.mp hread)
  | ok entries =>
    have hread := mapM_eq_ok_iff.mp hread
    unfold ofEntries
    simp only [Except.mapError, bind, Except.bind]
    cases hcompile : entries.mapM Entry.compile with
    | error e => exact .specFault hread (mapM_eq_error_iff.mp hcompile)
    | ok ts => exact .ledger hread (mapM_eq_ok_iff.mp hcompile)

/-- What is written decides what loading comes to. -/
lemma Loads.eq_ofRaw {es : List RawEntry} {r : Except LoadError Ledger} (h : Loads es r) :
    ofRaw es = r := by
  unfold ofRaw
  cases h with
  | sourceFault h => rw [mapM_eq_error_iff.mpr h]; rfl
  | specFault hread h =>
    rw [mapM_eq_ok_iff.mpr hread]
    simp only [Except.mapError, bind, Except.bind, ofEntries, mapM_eq_error_iff.mpr h]
    rfl
  | ledger hread hcompile =>
    rw [mapM_eq_ok_iff.mpr hread]
    simp only [Except.mapError, bind, Except.bind, ofEntries, mapM_eq_ok_iff.mpr hcompile]
    rfl

lemma ofRaw_eq_iff {es : List RawEntry} {r : Except LoadError Ledger} :
    ofRaw es = r ↔ Loads es r :=
  ⟨fun h => h ▸ loads_ofRaw es, Loads.eq_ofRaw⟩

end Ledger

/-! ### Tables -/

namespace Table

lemma ofValue_eq {seats : List (List RawEntry)} {v : Value}
    (h : RawEntry.SeatsWrittenAs seats v) :
    ofValue v = (seats.mapM Ledger.ofRaw).map SeatMap.mk := by
  have hread : ∀ vs, List.Forall₂ RawEntry.AllWrittenAs seats vs →
      vs.mapM Ledger.ofValue = seats.mapM Ledger.ofRaw := fun vs h =>
    mapM_eq_of_forall₂ (h.imp fun es v hesv => Ledger.ofValue_eq_ofRaw hesv).flip
  cases h with
  | @fields _ vs hseats h =>
    rw [← hread vs h]
    cases hvs : vs.mapM Ledger.ofValue <;>
      simp [ofValue, SeatMap.ofValue, Value.readField?, hseats, Value.require, Value.readList, hvs,
        bind, Except.bind, Except.map]
  | @parts vs h =>
    rw [← hread vs h]
    cases hvs : vs.mapM Ledger.ofValue <;>
      simp [ofValue, SeatMap.ofValue, SeatMap.ofParts, Value.readList, hvs, bind, Except.bind,
        Except.map]

/-- A table is loaded seat by seat. -/
lemma mapM_ofRaw_eq_iff {seats : List (List RawEntry)} {r : Except LoadError Table} :
    (seats.mapM Ledger.ofRaw).map SeatMap.mk = r ↔ Loads seats r := by
  refine ⟨?_, ?_⟩
  · rintro rfl
    cases hseats : seats.mapM Ledger.ofRaw with
    | error e =>
      obtain ⟨before, es, after, heq, hbefore, hes⟩ := mapM_eq_error_iff.mp hseats
      simp only [Ledger.ofRaw_eq_iff] at hbefore hes
      exact .fault heq hbefore hes
    | ok ls =>
      have h := mapM_eq_ok_iff.mp hseats
      simp only [Ledger.ofRaw_eq_iff] at h
      exact .table h
  · intro h
    cases h with
    | fault hseats hbefore hes =>
      simp only [← Ledger.ofRaw_eq_iff] at hbefore hes
      rw [mapM_eq_error_iff.mpr ⟨_, _, _, hseats, hbefore, hes⟩]
      rfl
    | table h =>
      simp only [← Ledger.ofRaw_eq_iff] at h
      rw [mapM_eq_ok_iff.mpr h]
      rfl

end Table

/-- **Which fault decides.** However they are written, entries are loaded as `Ledger.Loads` says,
and the entries of all seats as `Table.Loads` says, whatever is wrong with them. -/
theorem ofValue_eq_iff_loads :
    (∀ {es : List RawEntry} {v : Value}, RawEntry.AllWrittenAs es v →
      ∀ r, Ledger.ofValue v = r ↔ Ledger.Loads es r) ∧
    (∀ {seats : List (List RawEntry)} {v : Value}, RawEntry.SeatsWrittenAs seats v →
      ∀ r, Table.ofValue v = r ↔ Table.Loads seats r) := by
  refine ⟨fun h r => ?_, fun h r => ?_⟩
  · rw [Ledger.ofValue_eq_ofRaw h, Ledger.ofRaw_eq_iff]
  · rw [Table.ofValue_eq h, Table.mapM_ofRaw_eq_iff]

/-- The count has no resource. -/
def bareCount : RawEntry := ⟨['+', '3'], ['t', 'e', 'r', 'r', 'a', 'n', 's']⟩

/-- No source is called this. -/
def strayEntry : RawEntry := ⟨['+', 'k'], ['n', 'o', 'w', 'h', 'e', 'r', 'e']⟩

def RawEntry.toValue (e : RawEntry) : Value :=
  .object [(Entry.sourceField, .text e.source), (Entry.specField, .text e.spec)]

/-- In one ledger the stray source decides, though it comes after the faulty spec; at two seats the
first of them decides. -/
theorem ofValue_bareCount_strayEntry :
    Ledger.ofValue (.list [bareCount.toValue, strayEntry.toValue]) =
      .error (.vocabulary (.unknown "event source" strayEntry.source)) ∧
    Table.ofValue (.object [(SeatMap.seatsField,
        .list [.list [bareCount.toValue], .list [strayEntry.toValue]])]) =
      .error (.reward (.noResource ['3'])) := by
  have hbare : bareCount.WrittenAs bareCount.toValue := .fields rfl rfl
  have hstray : strayEntry.WrittenAs strayEntry.toValue := .fields rfl rfl
  refine ⟨(ofValue_eq_iff_loads.1 (.list (.cons hbare (.cons hstray .nil))) _).mpr ?_,
    (ofValue_eq_iff_loads.2 (.fields rfl (.cons (.list (.cons hbare .nil))
      (.cons (.list (.cons hstray .nil)) .nil))) _).mpr ?_⟩
  · exact .sourceFault ⟨[bareCount], strayEntry, [], rfl, by
      simpa using ⟨_, (rfl : bareCount.read = _)⟩, rfl⟩
  · exact .fault (show _ = [] ++ [bareCount] :: [[strayEntry]] from rfl) (by simp)
      (.specFault (.cons rfl .nil) ⟨[], _, [], rfl, by simp, rfl⟩)

end RuleTriggers
