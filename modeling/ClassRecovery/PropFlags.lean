namespace ClassRecovery

/-!
# Attributes of object members

The runtime hides, protects and freezes members by a number in which each of
three bits stands for one attribute.  A number with any further bit is not a
set of attributes: dropping the bits that nobody knows would read more into the
program than it says.
-/

structure PropFlags where
  /-- Left out when the members of an object are enumerated. -/
  hidden : Bool
  /-- Cannot be deleted. -/
  permanent : Bool
  /-- Assignments have no effect. -/
  readOnly : Bool
deriving DecidableEq, Inhabited, Repr

namespace PropFlags

/-- The attributes that a number stands for. -/
def ofInt? (value : Int64) : Option PropFlags :=
  if 0 ≤ value.toInt ∧ value.toInt < 8 then
    let bits := value.toInt.toNat
    some ⟨bits.testBit 0, bits.testBit 1, bits.testBit 2⟩
  else none

/-- The number for a set of attributes. -/
def bits (flags : PropFlags) : Nat :=
  flags.hidden.toNat + 2 * flags.permanent.toNat + 4 * flags.readOnly.toNat

/-- What the compiler sets on the members of every prototype. -/
def hiddenOnly : PropFlags :=
  ⟨true, false, false⟩

theorem ofInt?_bits (flags : PropFlags) :
    ofInt? (Int64.ofInt flags.bits) = some flags := by
  rcases flags with ⟨hidden, permanent, readOnly⟩
  cases hidden <;> cases permanent <;> cases readOnly <;> decide

theorem bits_testBit (number : Nat) (small : number < 8) :
    bits ⟨number.testBit 0, number.testBit 1, number.testBit 2⟩ = number := by
  revert number
  decide

/-- Every set of attributes is written as just one number. -/
theorem ofInt?_eq_some_iff (value : Int64) (flags : PropFlags) :
    ofInt? value = some flags ↔ value = Int64.ofInt flags.bits := by
  constructor
  · intro read
    unfold ofInt? at read
    split at read
    · next inside =>
        cases read
        have small : value.toInt.toNat < 8 := by omega
        have natural : (value.toInt.toNat : Int) = value.toInt := by omega
        rw [bits_testBit _ small, natural, Int64.ofInt_toInt]
    · cases read
  · intro written
    rw [written]
    exact ofInt?_bits flags

end PropFlags

end ClassRecovery
