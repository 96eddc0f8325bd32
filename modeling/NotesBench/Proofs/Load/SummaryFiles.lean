import Mathlib.Data.List.Forall2
import NotesBench.Load.Summary
import NotesBench.Proofs.Json.Value

/-!
# Summaries in files

The file of a summary is an object that holds every field of it under a name of its own, and for
every check an object of the same kind (`Summary.Told`, `Line.Told`). What is read of the file tells
of this summary and of no other one (`summaries_are_kept_whole`).
-/

namespace NotesBench.Load

/-! ## What records tell -/

/-- A record tells of a line. No name stands in it twice, and the reason stands in it exactly when
there is one. -/
structure Line.Told (l : Line) (record : List (String × Json)) : Prop where
  distinct : (record.map Prod.fst).Nodup
  name : record.lookup "name" = some (.string l.name)
  passes : record.lookup "passes" = some (.int l.passes)
  fails : record.lookup "fails" = some (.int l.fails)
  firstFailure : record.lookup "first_failure" = l.firstFailure.map Json.string

/-- A record tells of a summary, with one record for each line, in their order. -/
structure Summary.Told (s : Summary) (record : List (String × Json)) : Prop where
  distinct : (record.map Prod.fst).Nodup
  baseUrl : record.lookup "base_url" = some (.string s.baseUrl)
  users : record.lookup "vus" = some (.int s.users)
  iterations : record.lookup "iterations" = some (.int s.iterations)
  earlyReturns : record.lookup "early_returns" = some (.int s.earlyReturns)
  elapsedMillis : record.lookup "elapsed_ms" = some (.int s.elapsedMillis)
  interrupted : record.lookup "interrupted" = some (.bool s.interrupted)
  lines : ∃ records, record.lookup "checks" = some (.array (records.map Json.object)) ∧
    List.Forall₂ Line.Told s.lines records

section Told

variable {record : List (String × Json)}

theorem Line.Told.unique {l l' : Line} (h : l.Told record) (h' : l'.Told record) : l = l' := by
  have hname := h.name.symm.trans h'.name
  have hpasses := h.passes.symm.trans h'.passes
  have hfails := h.fails.symm.trans h'.fails
  have hreason := h.firstFailure.symm.trans h'.firstFailure
  simp only [Option.some.injEq, Json.string.injEq, Json.int.injEq, Int.natCast_inj]
    at hname hpasses hfails
  rw [(Option.map_injective fun _ _ => Json.string.inj).eq_iff] at hreason
  cases l
  cases l'
  rw [Line.mk.injEq]
  exact ⟨hname, hpasses, hfails, hreason⟩

theorem Summary.Told.unique {s t : Summary} (h : s.Told record) (h' : t.Told record) : s = t := by
  have hbaseUrl := h.baseUrl.symm.trans h'.baseUrl
  have husers := h.users.symm.trans h'.users
  have hiterations := h.iterations.symm.trans h'.iterations
  have hearlyReturns := h.earlyReturns.symm.trans h'.earlyReturns
  have helapsed := h.elapsedMillis.symm.trans h'.elapsedMillis
  have hinterrupted := h.interrupted.symm.trans h'.interrupted
  obtain ⟨records, hrecords, hlines⟩ := h.lines
  obtain ⟨records', hrecords', hlines'⟩ := h'.lines
  have heq := hrecords.symm.trans hrecords'
  simp only [Option.some.injEq, Json.string.injEq, Json.int.injEq, Json.bool.injEq,
    Json.array.injEq, Int.natCast_inj]
    at hbaseUrl husers hiterations hearlyReturns helapsed hinterrupted heq
  obtain rfl := List.map_injective_iff.2 (fun _ _ => Json.object.inj) heq
  have hlines : s.lines = t.lines :=
    List.left_unique_forall₂' (fun _ _ _ hl hl' => hl.unique hl') hlines hlines'
  cases s
  cases t
  rw [Summary.mk.injEq]
  exact ⟨hbaseUrl, husers, hiterations, hearlyReturns, helapsed, hinterrupted, hlines⟩

end Told

/-! ## What is written -/

theorem Line.exists_told (l : Line) :
    ∃ record, Summary.lineJson l = .object record ∧ l.Told record := by
  refine ⟨_, rfl, ?_⟩
  obtain ⟨name, passes, fails, firstFailure⟩ := l
  cases firstFailure with
  | none => exact ⟨by simp, rfl, rfl, rfl, rfl⟩
  | some reason => exact ⟨by simp, rfl, rfl, rfl, rfl⟩

theorem exists_records (lines : List Line) :
    ∃ records, lines.map Summary.lineJson = records.map Json.object ∧
      List.Forall₂ Line.Told lines records := by
  induction lines with
  | nil => exact ⟨[], rfl, .nil⟩
  | cons l lines ih =>
    obtain ⟨record, hrecord, htold⟩ := l.exists_told
    obtain ⟨records, hrecords, hlines⟩ := ih
    exact ⟨record :: records, by rw [List.map_cons, List.map_cons, hrecord, hrecords],
      .cons htold hlines⟩

theorem Summary.exists_told (s : Summary) : ∃ record, s.json = .object record ∧ s.Told record := by
  obtain ⟨records, hrecords, hlines⟩ := exists_records s.lines
  refine ⟨_, rfl, by simp, rfl, rfl, rfl, rfl, rfl, rfl, records, ?_, hlines⟩
  rw [← hrecords]
  rfl

/-! ## Counts within 64 bits -/

/-- The counts of a line are within 64 bits. -/
structure Line.IsCounted (l : Line) : Prop where
  passes : l.passes < Text.unsignedEnd
  fails : l.fails < Text.unsignedEnd

/-- All counts are within 64 bits. -/
structure Summary.IsCounted (s : Summary) : Prop where
  users : s.users < Text.unsignedEnd
  iterations : s.iterations < Text.unsignedEnd
  earlyReturns : s.earlyReturns < Text.unsignedEnd
  elapsedMillis : s.elapsedMillis < Text.unsignedEnd
  lines : ∀ l ∈ s.lines, l.IsCounted

theorem fits_natCast {n : Nat} (h : n < Text.unsignedEnd) : Json.fits n = true := by
  simp [Json.fits, h]

theorem isExact_lineJson (l : Line) : (Summary.lineJson l).isExact = true := by
  obtain ⟨name, passes, fails, firstFailure⟩ := l
  cases firstFailure <;> rfl

theorem isReadable_lineJson {l : Line} (h : l.IsCounted) :
    (Summary.lineJson l).isReadable = true := by
  obtain ⟨name, passes, fails, firstFailure⟩ := l
  have hpasses := fits_natCast h.passes
  have hfails := fits_natCast h.fails
  cases firstFailure <;>
    simp [Summary.lineJson, Json.isReadable, Json.membersAreReadable, hpasses, hfails]

theorem Summary.isExact_json (s : Summary) : s.json.isExact = true := by
  have hlines : Json.areExact (s.lines.map lineJson) = true :=
    Json.areExact_iff.2 (List.forall_mem_map.2 fun l _ => isExact_lineJson l)
  simp [json, Json.isExact, Json.membersAreExact, hlines]

theorem Summary.isReadable_json {s : Summary} (h : s.IsCounted) : s.json.isReadable = true := by
  have hlines : Json.areReadable (s.lines.map lineJson) = true :=
    Json.areReadable_iff.2 (List.forall_mem_map.2 fun l hl => isReadable_lineJson (h.lines l hl))
  simp [json, Json.isReadable, Json.membersAreReadable, hlines, fits_natCast h.users,
    fits_natCast h.iterations, fits_natCast h.earlyReturns, fits_natCast h.elapsedMillis]

/-! ## Files -/

/-- The file is read as an object that tells of its summary and of no other one, whatever its texts
and counts are. Different summaries have different files. -/
theorem summaries_are_kept_whole :
    (∀ s : Summary, s.IsCounted → ∃ record,
      Json.read? (Text.Utf8.encode s.fileText) = some (.object record) ∧
        ∀ t : Summary, t.Told record ↔ t = s) ∧
    ∀ s t : Summary, Text.Utf8.encode s.fileText = Text.Utf8.encode t.fileText ↔ s = t := by
  refine ⟨fun s hs => ?_, fun s t => ⟨fun h => ?_, fun h => by rw [h]⟩⟩
  · obtain ⟨record, hrecord, htold⟩ := s.exists_told
    refine ⟨record, ?_, fun t => ⟨fun ht => ht.unique htold, fun h => h ▸ htold⟩⟩
    rw [Summary.fileText, Json.read?_pretty_eq_some (Summary.isReadable_json hs), hrecord]
  · -- The counts may be of any size here, so the two values are compared and not what is read.
    have hjson : s.json = t.json := Json.pretty_injective s.isExact_json t.isExact_json h
    obtain ⟨record, hrecord, htold⟩ := s.exists_told
    obtain ⟨record', hrecord', htold'⟩ := t.exists_told
    rw [hrecord, hrecord', Json.object.injEq] at hjson
    exact htold.unique (hjson ▸ htold')

/-- A summary with the largest counts, with texts that would end a text or an object, and with an
empty reason. -/
def unusualSummary : Summary where
  baseUrl := "http://é\\\"😀\u0000"
  users := 18_446_744_073_709_551_615
  iterations := 9_007_199_254_740_993
  earlyReturns := 0
  elapsedMillis := 18_446_744_073_709_551_615
  interrupted := true
  lines := [
    ⟨"health\n204\"", 18_446_744_073_709_551_615, 1, some "transport: \"\x7d, \u001f"⟩,
    ⟨"", 0, 1, some ""⟩,
    ⟨"note 304", 3, 0, none⟩]

/-- The same summary without the empty reason. -/
def shortenedSummary : Summary :=
  { unusualSummary with lines := unusualSummary.lines.map fun l =>
      { l with firstFailure := l.firstFailure.filter (· != "") } }

theorem unusual_summary_is_kept_whole :
    unusualSummary.IsCounted ∧
    (∃ record, Json.read? (Text.Utf8.encode unusualSummary.fileText) = some (.object record) ∧
      unusualSummary.Told record ∧ ¬shortenedSummary.Told record) ∧
    Text.Utf8.encode unusualSummary.fileText ≠ Text.Utf8.encode shortenedSummary.fileText := by
  have hcounted : unusualSummary.IsCounted := by
    refine ⟨by decide, by decide, by decide, by decide, ?_⟩
    simp only [unusualSummary, List.forall_mem_cons]
    exact ⟨⟨by decide, by decide⟩, ⟨by decide, by decide⟩, ⟨by decide, by decide⟩, by simp⟩
  have hne : shortenedSummary ≠ unusualSummary := by decide
  obtain ⟨record, hread, htold⟩ := summaries_are_kept_whole.1 unusualSummary hcounted
  exact ⟨hcounted, ⟨record, hread, (htold _).2 rfl, fun h => hne ((htold _).1 h)⟩,
    fun h => hne ((summaries_are_kept_whole.2 _ _).1 h).symm⟩

end NotesBench.Load
