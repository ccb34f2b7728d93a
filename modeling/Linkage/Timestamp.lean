import Linkage.Calendar
import Linkage.Text.Numeral

/-!
# Timestamps

A timestamp shows an instant in UTC down to the millisecond. Instants before
1970 count as its beginning.
-/

namespace Linkage

/-- An instant: seconds since the beginning of 1970, and nanoseconds on top of them. -/
structure Instant where
  seconds : Int
  nanoseconds : Nat
  deriving DecidableEq, Inhabited

namespace Instant

/-- The whole milliseconds from the beginning of 1970 to an instant, none before it. -/
def milliseconds (t : Instant) : Nat :=
  match t.seconds with
  | .ofNat s => s * 1000 + t.nanoseconds / 1000000
  | .negSucc _ => 0

/-- The text of a number of milliseconds after the beginning of 1970. -/
def textOfMilliseconds (ms : Nat) : List Char :=
  let seconds := ms / 1000
  let date := Calendar.dateOfDay (seconds / 86400)
  let time := seconds % 86400
  Numeral.padded 4 date.year ++ '-' :: Numeral.padded 2 date.month ++ '-' ::
    Numeral.padded 2 date.day ++ 'T' :: Numeral.padded 2 (time / 3600) ++ ':' ::
    Numeral.padded 2 (time % 3600 / 60) ++ ':' :: Numeral.padded 2 (time % 60) ++ '.' ::
    Numeral.padded 3 (ms % 1000) ++ ['Z']

/-- The timestamp of an instant. -/
def text (t : Instant) : String := String.ofList (textOfMilliseconds t.milliseconds)

end Instant

end Linkage
