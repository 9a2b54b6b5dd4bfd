import SqlMapper.Proofs.Field.Wire
import SqlMapper.Proofs.Result

/-!
# Refused values

A field that does not take a value says so in one way, on the way to the database (`Field.toWire_failsWith`) as on the
way back (`Field.toApp_failsWith`): the error is about the value of a column, and the column is its own. This holds
whatever fails inside, be it the type of the value, its range, the text that it is read from, or the pattern that the
text should follow. A moment that leaves the calendar on the clocks of the column is not refused: that is a panic.
-/

namespace SqlMapper.Field

open Number Calendar Result

variable {f : Field} {v : Value}

/-- The error says that a value does not fit the column of the field. -/
def Refuses (f : Field) (e : Error) : Prop := ∃ fault, e = ⟨.data f.name fault, []⟩

theorem refuses_invalid (f : Field) (v : Value) (expected : String) : f.Refuses (f.invalid v expected) := ⟨_, rfl⟩

theorem take_failsWith {α : Type} {expected : String} : ∀ {reading : Option α},
    (f.take v expected reading).FailsWith f.Refuses
  | some a => .ok a
  | none => .error fun _ => f.refuses_invalid v expected

/-! ## Texts -/

/-- A text that follows no pattern is refused, and so is a pattern that cannot be understood. -/
theorem readTemporal_failsWith {α : Type} {read : List PatternItem → String → Option α} {s : String} :
    ∀ {formats : List String}, (f.readTemporal read s formats).FailsWith f.Refuses
  | [] => .error fun _ => ⟨_, rfl⟩
  | format :: rest => by
    unfold readTemporal
    split
    · exact .error fun _ => ⟨_, rfl⟩
    · split
      · exact .ok _
      · exact readTemporal_failsWith

theorem appTemporal_failsWith {α : Type} {expected : String} {read : List PatternItem → String → Option α}
    {formats : List String} : (f.appTemporal v expected read formats).FailsWith f.Refuses := by
  unfold appTemporal
  split
  · exact readTemporal_failsWith
  · exact .error fun _ => f.refuses_invalid v expected

/-! ## Numbers -/

theorem wireInteger_failsWith : (f.wireInteger v).FailsWith f.Refuses := by
  unfold wireInteger
  split
  · exact .ok _
  · exact .ok _
  · exact take_failsWith

theorem appInteger_failsWith : (f.appInteger v).FailsWith f.Refuses := by
  unfold appInteger
  split
  · exact .ok _
  · exact .ok _
  · split
    · exact take_failsWith
    · exact take_failsWith

theorem instant_failsWith : (f.instant v).FailsWith f.Refuses := by
  unfold instant
  split
  · exact .ok _
  · exact .ok _
  · refine take_failsWith.bind fun seconds _ => ?_
    split
    · exact .ok _
    · exact .error fun _ => ⟨_, rfl⟩

theorem appTimestamp_failsWith (clocks : Clocks) : (f.appTimestamp clocks v).FailsWith f.Refuses :=
  instant_failsWith.bind fun _ _ => .orPanic _

/-! ## Values -/

theorem scalarToWire_failsWith : (f.scalarToWire v).FailsWith f.Refuses := by
  unfold scalarToWire
  split
  case h_1 => exact wireInteger_failsWith
  -- the columns that a reading decides, and those that look at the type of the value first
  all_goals try split
  all_goals first
    | exact .ok _
    | exact .error fun _ => f.refuses_invalid v _
    | exact take_failsWith.map _
    | exact readTemporal_failsWith.map _
    | exact (FailsWith.orPanic _).map _

mutual

theorem toWire_failsWith : ∀ v, (f.toWire v).FailsWith f.Refuses
  | .null => .ok _
  | .list items => by
    rw [toWire]
    exact (toWireAll_failsWith items).map _
  | .boolean _ | .int _ | .uint _ | .float _ | .decimal _ | .text _ | .bytes _ | .date _ | .time _ | .datetime _
  | .timestamp _ | .uuid _ => by
    rw [toWire]
    exact scalarToWire_failsWith

/-- A list is refused for one of its items. -/
theorem toWireAll_failsWith (vs : List Value) : (f.toWireAll vs).FailsWith f.Refuses := by
  cases vs with
  | nil => exact .ok _
  | cons v vs =>
    rw [toWireAll]
    exact (toWire_failsWith v).bind fun _ _ => (toWireAll_failsWith vs).bind fun _ _ => .ok _

end

theorem scalarToApp_failsWith : (f.scalarToApp v).FailsWith f.Refuses := by
  unfold scalarToApp
  split
  case h_1 => exact appInteger_failsWith
  all_goals try split
  all_goals first
    | exact .ok _
    | exact take_failsWith.map _
    | exact appTemporal_failsWith.map _
    | exact (appTimestamp_failsWith _).map _

theorem toApp_failsWith (v : Value) : (f.toApp v).FailsWith f.Refuses := by
  unfold toApp
  split
  · exact .ok _
  · exact scalarToApp_failsWith

end SqlMapper.Field
