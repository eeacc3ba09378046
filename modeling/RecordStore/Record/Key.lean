import RecordStore.Text.Base64
import RecordStore.Value.Basic

/-!
Primary keys for records that carry none. A generator makes the next key from the number of keys it has
made before and the name of the record type; the one used by default spells random bytes in base 64.
-/

namespace RecordStore

/-- Makes a key from the number of keys made before and the name of the record type. -/
abbrev KeySource := Nat → String → Value

/-- Random bytes, by the number of times that some were taken before. -/
abbrev RandomBytes := Nat → List UInt8

def randomKeyLength : Nat := 15

def randomKey (token : List UInt8) : String := String.ofList (Base64.encode token)

inductive KeyGenerator where
  | random
  | custom (source : KeySource)

namespace KeyGenerator

def source (generator : KeyGenerator) (bytes : RandomBytes) : KeySource :=
  match generator with
  | random => fun made _ => .text (randomKey (bytes made))
  | custom source => source

def isRandom : KeyGenerator → Bool
  | random => true
  | custom _ => false

end KeyGenerator
end RecordStore
