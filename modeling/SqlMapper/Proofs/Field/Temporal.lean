import Mathlib.Data.List.Perm.Basic
import SqlMapper.Proofs.Calendar.Reading
import SqlMapper.Proofs.Field.Wire
import SqlMapper.Proofs.Sample
import SqlMapper.Proofs.Text.Utf8

/-!
# Dates and times in literals are read by fields

A search through patterns that each read one value from a text or nothing at all comes to that value, whatever pattern
is tried first (`Field.readTemporal_of_reads`). So a field of dates, times or both with its usual patterns reads the
content of a literal as the value that the literal was written for (`Field.toApp_of_literal`).
-/

namespace SqlMapper

open Calendar

namespace Field

variable {f : Field}

/-- The first pattern that reads the text reads the value. -/
theorem readTemporal_of_reads {α : Type} {read : List PatternItem → String → Option α} {s : String} {a : α} :
    ∀ {formats : List String}, Reads read formats s a → f.readTemporal read s formats = .ok a
  | [], h => by
    obtain ⟨_, hmem, -⟩ := h.found
    cases hmem
  | format :: rest, h => by
    obtain ⟨items, hitems, hread⟩ := h.none_or format List.mem_cons_self
    rw [readTemporal, hitems]
    dsimp only
    rcases hread with hread | hread
    · rw [hread]
      refine readTemporal_of_reads ⟨fun g hg => h.none_or g (List.mem_cons_of_mem _ hg), ?_⟩
      obtain ⟨g, hg, items', hitems', hread'⟩ := h.found
      rcases List.mem_cons.1 hg with rfl | hg
      · rw [hitems] at hitems'
        cases hitems'
        rw [hread] at hread'
        cases hread'
      · exact ⟨g, hg, items', hitems', hread'⟩
    · rw [hread]

/-- What a field of dates, times or both reads from a text. -/
def readText? (f : Field) (s : String) : Option (Result Value) :=
  match f.kind with
  | .date formats => some ((f.readTemporal Date.read s formats).map .date)
  | .time formats => some ((f.readTemporal Time.read s formats).map .time)
  | .datetime formats => some ((f.readTemporal DateTime.read s formats).map .datetime)
  | _ => none

variable {s : String} {v w : Value} {r : Result Value}

theorem toApp_of_readText (h : f.readText? s = some r) (hw : w.asText? = some s) : f.toApp w = r := by
  unfold readText? at h
  split at h
  case h_4 => cases h
  all_goals
    cases h
    cases w with
    | text _ | bytes _ => simp [toApp, Value.isNull, scalarToApp, *, appTemporal]
    | _ => cases hw

/-- A text and its bytes are read alike. -/
theorem toApp_text_and_bytes (h : f.readText? s = some (.ok v)) :
    f.toApp (.text s) = .ok v ∧ f.toApp (.bytes (Text.Utf8.encode s)) = .ok v :=
  ⟨toApp_of_readText h rfl, toApp_of_readText h (Text.Utf8.decode?_encode s)⟩

end Field

/-- Patterns are tried in another order. -/
theorem Calendar.Reads.perm {α : Type} {read : List PatternItem → String → Option α} {s : String} {a : α}
    {formats formats' : List String} (h : Reads read formats s a) (hp : formats'.Perm formats) :
    Reads read formats' s a where
  none_or format hf := h.none_or format (hp.mem_iff.1 hf)
  found := h.found.imp fun _ hg => ⟨hp.mem_iff.2 hg.1, hg.2⟩

/-- The column reads texts by the usual patterns of its kind, in any order, and the value is one of the kind: its year
has no sign, and it has whole microseconds. -/
inductive FieldKind.ReadsUsual : FieldKind → Value → Prop
  | date {formats : List String} {d : Date} : formats.Perm dateFormats → 0 ≤ d.year →
      ReadsUsual (.date formats) (.date d)
  | time {formats : List String} {t : Time} : formats.Perm timeFormats → t.nanosecond.val % 1000 = 0 →
      ReadsUsual (.time formats) (.time t)
  | datetime {formats : List String} {d : DateTime} : formats.Perm datetimeFormats → 0 ≤ d.date.year →
      d.time.nanosecond.val % 1000 = 0 → ReadsUsual (.datetime formats) (.datetime d)

/-- **A date or time in a literal is read back**: what stands between the quotes is read by the field, as a text or as
its bytes, and comes to the value of the literal. -/
theorem Field.toApp_of_literal {f : Field} {v : Value} (h : f.kind.ReadsUsual v) :
    ∃ s, v.literal = some ("'" ++ s ++ "'") ∧ f.toApp (.text s) = .ok v ∧
      f.toApp (.bytes (Text.Utf8.encode s)) = .ok v := by
  generalize hk : f.kind = kind at h
  cases h with
  | @date formats d hp hyear =>
    have hread := readTemporal_of_reads (f := f) ((Date.reads_literal hyear).perm hp)
    refine ⟨d.literal, rfl, toApp_text_and_bytes ?_⟩
    simp only [readText?, hk, hread]
    rfl
  | @time formats t hp hmicro =>
    have hread := readTemporal_of_reads (f := f) ((Time.reads_literal hmicro).perm hp)
    refine ⟨t.literal, rfl, toApp_text_and_bytes ?_⟩
    simp only [readText?, hk, hread]
    rfl
  | @datetime formats d hp hyear hmicro =>
    have hread := readTemporal_of_reads (f := f) ((DateTime.reads_literal hyear hmicro).perm hp)
    refine ⟨d.literal, rfl, toApp_text_and_bytes ?_⟩
    simp only [readText?, hk, hread]
    rfl

/-- A microsecond into the leap day, in a column that tries its patterns from the back. -/
theorem Field.toApp_of_literal_leapDay :
    let moment : DateTime := ⟨Sample.leapDay, ⟨0, 0, 0, 1000⟩⟩
    let f : Field := Sample.named "seen" { Field.datetime with kind := .datetime FieldKind.datetimeFormats.reverse }
    (Value.datetime moment).literal = some "'2024-02-29 00:00:00.000001'" ∧
      f.toApp (.text "2024-02-29 00:00:00.000001") = .ok (.datetime moment) := by
  intro moment f
  obtain ⟨s, hs, htext, -⟩ :=
    Field.toApp_of_literal (f := f) (.datetime (d := moment) (List.reverse_perm _) (by decide) (by decide))
  have hliteral : (Value.datetime moment).literal = some "'2024-02-29 00:00:00.000001'" := by decide
  have hcontent : s = "2024-02-29 00:00:00.000001" := by
    rw [hliteral, Option.some.injEq, show "'2024-02-29 00:00:00.000001'" = "'" ++ "2024-02-29 00:00:00.000001" ++ "'" from rfl] at hs
    exact ((String.append_right_inj _).1 ((String.append_left_inj _).1 hs)).symm
  exact ⟨hliteral, hcontent ▸ htext⟩

end SqlMapper
