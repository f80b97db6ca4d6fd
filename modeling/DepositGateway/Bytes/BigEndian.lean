/-!
# Big-endian numbers

Naturals as byte strings, most significant byte first.

* `Bytes.ofNat` writes the shortest form: no leading zero byte, zero is the empty string.
* `Bytes.toNat` reads any byte string, leading zeros included.
* `Bytes.ofNatPadded` fills up with zero bytes on the left to a given width.
* `Bytes.toNat_ofNat`: reading a shortest form gives the number back.
-/

namespace DepositGateway

/-- A byte string. -/
abbrev Bytes := List UInt8

namespace Bytes

/-- The number written most significant byte first. -/
def toNat (bytes : Bytes) : Nat :=
  bytes.foldl (fun value byte => value * 256 + byte.toNat) 0

/-- The shortest big-endian form of a number; zero has no bytes. -/
def ofNat (value : Nat) : Bytes :=
  if value = 0 then [] else ofNat (value / 256) ++ [UInt8.ofNat (value % 256)]
termination_by value
decreasing_by omega

/-- The shortest form, filled up on the left to `width` bytes. -/
def ofNatPadded (width value : Nat) : Bytes :=
  let digits := ofNat value
  List.replicate (width - digits.length) 0 ++ digits

@[simp] theorem toNat_nil : toNat [] = 0 := rfl

@[simp] theorem toNat_append_singleton (bytes : Bytes) (byte : UInt8) :
    toNat (bytes ++ [byte]) = toNat bytes * 256 + byte.toNat := by
  simp [toNat, List.foldl_append]

@[simp] theorem ofNat_zero : ofNat 0 = [] := by
  rw [ofNat, if_pos rfl]

theorem ofNat_pos {value : Nat} (h : 0 < value) :
    ofNat value = ofNat (value / 256) ++ [UInt8.ofNat (value % 256)] := by
  rw [ofNat, if_neg (by omega)]

/-- Reading the shortest form gives the number back. -/
theorem toNat_ofNat (value : Nat) : toNat (ofNat value) = value := by
  induction value using Nat.strongRecOn with
  | ind value ih =>
    rcases Nat.eq_zero_or_pos value with rfl | h
    · simp
    · rw [ofNat_pos h, toNat_append_singleton, ih _ (by omega)]
      simp only [UInt8.toNat_ofNat']
      omega

end Bytes

end DepositGateway
