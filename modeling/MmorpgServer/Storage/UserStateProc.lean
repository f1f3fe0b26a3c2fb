/-
MmorpgServer.Storage.UserStateProc — the text handed to the stored
procedure, `storage/DB/Proc/userStateProc.cpp`.

Coordinates are printed by an `ostream` in its default notation with nine
significant digits, which is `%.9g`; what is not finite is printed by its
name.
-/
import MmorpgServer.Lib.DecimalText
import MmorpgServer.Lib.Extended
import MmorpgServer.Storage.UserSnapshot

namespace MmorpgServer.Storage

open MmorpgServer.Lib

/-- `oss << std::setprecision(9) << (double)x`. -/
def printDouble : Extended ℚ → String
  | .fin q => String.ofList (printG 9 q)
  | .inf false => "inf"
  | .inf true => "-inf"
  | .nan => "nan"

/-- One pass of the loop of `BuildSnapshotJson`. -/
def snapshotJson (s : UserSnapshot (Extended ℚ)) : String :=
  "\x7b" ++ "\"uid\":" ++ toString s.uid ++ "," ++ "\"x\":" ++ printDouble s.x ++ "," ++
    "\"z\":" ++ printDouble s.z ++ "," ++ "\"hp\":" ++ toString s.hp ++ "," ++
    "\"sp\":" ++ toString s.sp ++ "\x7d"

/-- `BuildSnapshotJson`. -/
def buildSnapshotJson (snap : List (UserSnapshot (Extended ℚ))) : String :=
  "[" ++ ",".intercalate (snap.map snapshotJson) ++ "]"

/-- **A coordinate is printed as a number in JSON** exactly when it is
finite. -/
theorem jsonNumber_printDouble (x : Extended ℚ) :
    JsonNumber (printDouble x).toList ↔ x.Finite := by
  cases x with
  | fin q =>
    have hfin := jsonNumber_printG 9 q
    simpa [printDouble, Extended.Finite, Extended.isFinite] using hfin
  | inf s =>
    cases s with
    | false =>
      have htext : (printDouble (.inf false)).toList = ['i', 'n', 'f'] := rfl
      rw [htext]
      simpa [Extended.Finite, Extended.isFinite] using not_jsonNumber_cons (by decide) rfl
    | true =>
      have htext : (printDouble (.inf true)).toList = ['-', 'i', 'n', 'f'] := rfl
      rw [htext]
      simpa [Extended.Finite, Extended.isFinite] using not_jsonNumber_sign rfl
  | nan =>
    have htext : (printDouble .nan).toList = ['n', 'a', 'n'] := rfl
    rw [htext]
    simpa [Extended.Finite, Extended.isFinite] using not_jsonNumber_cons (by decide) rfl

end MmorpgServer.Storage
