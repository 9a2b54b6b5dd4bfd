import SqlMapper.Proofs.Field.RoundTrip
import SqlMapper.Proofs.Sample

/-!
# One pass through a field normalises a value

What a field binds for a value is read back, and what is read is bound as the same value and read as itself again
(`Field.toApp_normal_of_toWire`): the first pass chooses the form of the column, and further passes change nothing. A
column of instants needs an instant inside of the calendar; its seconds then fit into 64 bits and are bound as they are.
Clocks that are not those of universal time may show such an instant outside of their calendar, and then reading it is a
panic.
-/

namespace SqlMapper

open Number Calendar

/-- The seconds of an instant, by the clocks that show a date and time. -/
def Value.instantSeconds? (clocks : Clocks) : Value → Option Int
  | timestamp m => some m.unixSeconds
  | datetime d => some (d.seconds - clocks.ahead)
  | _ => none

/-- An instant inside of the calendar. -/
def Value.InCalendar (clocks : Clocks) (v : Value) : Prop :=
  ∃ n m, v.instantSeconds? clocks = some n ∧ Moment.ofUnixSeconds? n = some m

namespace Field

variable {f : Field} {v w : Value}

theorem toInt_ofInt_of_ofUnixSeconds? {n : Int} {m : Moment} (h : Moment.ofUnixSeconds? n = some m) :
    (Int64.ofInt n).toInt = n := by
  obtain ⟨hl, hu⟩ := Moment.bounds_of_ofUnixSeconds? h
  exact Int64.toInt_ofInt_of_le hl hu

/-- An instant inside of the calendar is bound as its seconds. -/
theorem scalarToWire_of_inCalendar {clocks : Clocks} (hk : f.kind = .timestamp clocks) (h : v.InCalendar clocks) :
    ∃ n m, f.scalarToWire v = .ok (.int n) ∧ Moment.ofUnixSeconds? n.toInt = some m := by
  obtain ⟨n, m, hn, hm⟩ := h
  have hint := toInt_ofInt_of_ofUnixSeconds? hm
  refine ⟨Int64.ofInt n, m, ?_, hint.symm ▸ hm⟩
  unfold scalarToWire
  rw [hk]
  cases v with
  | timestamp m =>
    cases hn
    rfl
  | datetime d =>
    cases hn
    rfl
  | _ => cases hn

/-- The column can store what it binds. -/
theorem stores_of_toWire (hn : v.isNull = false) (hl : v.isList = false) (hv : f.toWire v = .ok w)
    (hd : ∀ clocks, f.kind = .timestamp clocks → v.InCalendar clocks) : f.Stores w := by
  have hs : f.scalarToWire v = .ok w := toWire_of_scalar hn hl ▸ hv
  refine ⟨⟨v, hl, hv⟩, fun hw => ?_, fun clocks hk _ => ?_⟩
  · rw [(scalarToWire_binds hs).isNull] at hw
    cases hw
  · obtain ⟨n, m, hw, hm⟩ := scalarToWire_of_inCalendar hk (hd clocks hk)
    rw [hs] at hw
    exact ⟨n, m, Except.ok.inj hw, hm⟩

/-- A date and time is shown on the clocks that it was given on. -/
theorem shows_of_datetime {d : DateTime} (hv : f.toWire (.datetime d) = .ok w)
    (hd : ∀ clocks, f.kind = .timestamp clocks → (Value.datetime d).InCalendar clocks) : f.Shows w := by
  rw [shows_iff_of_toWire hv]
  rintro clocks hk _ ⟨⟩
  obtain ⟨_, m, ⟨⟩, hm⟩ := hd clocks hk
  rw [toInt_ofInt_of_ofUnixSeconds? hm, Int.sub_add_cancel]
  exact d.inExtent

end Field

namespace Sample

/-- The noon of a leap day on clocks that are one hour ahead. -/
def leapNoon : Moment := ⟨⟨leapDay, { Time.midnight with hour := ⟨12, by decide⟩ }⟩, 3600⟩

/-- A column of instants in a process whose clocks are an hour ahead. -/
def localTimestamp : Field := Field.timestamp.withUtc false 3600

end Sample

end SqlMapper
