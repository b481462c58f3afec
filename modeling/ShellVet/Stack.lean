/-!
# Limits of the host

Nested data is read, copied, shown and walked by functions that call themselves, and the stack they
share is bounded. Running out of it ends what is being done with an error that only few callers
expect. The limits count whole levels of nesting; how much of the stack is taken when a function is
called does not change them here. Copying takes more of the stack for each level than reading, and
showing takes no more than reading.

Integers have a limit too: one of more digits is neither read nor written.
-/

namespace ShellVet

/-- How many levels of nesting the stack has room for. -/
structure Stack where
  /-- Levels of a JSON text that is read. -/
  reading : Nat
  /-- Levels of a value that is shown in a message. -/
  showing : Nat
  /-- Levels of a configuration that becomes a JSON document. -/
  copying : Nat
  /-- Levels of a YAML text that is read. -/
  composing : Nat
  /-- Levels of a document whose commands are collected. -/
  walking : Nat
  copying_le_reading : copying ≤ reading
  reading_le_showing : reading ≤ showing

/-- The room that there is when nothing else takes it. -/
def Stack.usual : Stack where
  reading := 990
  showing := 990
  copying := 490
  composing := 480
  walking := 980
  copying_le_reading := by decide
  reading_le_showing := by decide

/-- What a value can be too much for. -/
inductive Limit where
  /-- It nests deeper than the stack goes. -/
  | depth
  /-- It holds an integer of too many digits. -/
  | digits
  deriving DecidableEq, Repr

/-- The stack is used up. -/
inductive Overflow where
  | overflow
  deriving DecidableEq, Repr

/-- Most digits an integer may have. -/
def digitLimit : Nat := 4300

/-- Whether an integer has too many digits to be written. -/
def isOverlong (value : Int) : Bool := Nat.pow 10 digitLimit ≤ value.natAbs

/-- What is said of an integer of too many digits that is to be written. -/
def overlongMessage : String :=
  s!"Exceeds the limit ({digitLimit} digits) for integer string conversion; " ++
    "use sys.set_int_max_str_digits() to increase the limit"

end ShellVet
