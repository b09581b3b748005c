/-! An id made by the editor names what it was made for, followed by at least 32 hexadecimal digits. A supply
counts the ids it has given out, so no two of them are the same (`IdSupply.id_injective`). -/

namespace FormEditor

structure IdSupply where
  next : Nat
  deriving DecidableEq

namespace IdSupply

def hexChar (digit : Fin 16) : Char :=
  if digit.val < 10 then Char.ofNat ('0'.toNat + digit.val) else Char.ofNat ('a'.toNat + digit.val - 10)

def hexValue (char : Char) : Nat :=
  if char ≤ '9' then char.toNat - '0'.toNat else char.toNat - 'a'.toNat + 10

theorem hexValue_hexChar (digit : Fin 16) : hexValue (hexChar digit) = digit.val := by
  revert digit; decide

theorem hexChar_ne_dash (digit : Fin 16) : hexChar digit ≠ '-' := by
  revert digit; decide

def hexDigits (number : Nat) : List Char :=
  if number < 16 then [hexChar (Fin.ofNat 16 number)]
  else hexDigits (number / 16) ++ [hexChar (Fin.ofNat 16 number)]

/-- The digits of a number after as many zeros as make them 32. -/
def paddedHex (number : Nat) : List Char :=
  List.replicate (32 - (hexDigits number).length) '0' ++ hexDigits number

def hexNumber (chars : List Char) : Nat :=
  chars.foldl (fun number char => number * 16 + hexValue char) 0

theorem hexNumber_hexDigits (number : Nat) : hexNumber (hexDigits number) = number := by
  induction number using hexDigits.induct with
  | case1 number small =>
    rw [hexDigits, if_pos small]
    simp [hexNumber, hexValue_hexChar]
    omega
  | case2 number large ih =>
    rw [hexDigits, if_neg large, hexNumber, List.foldl_append, ← hexNumber, ih]
    simp [hexValue_hexChar]
    omega

theorem hexNumber_paddedHex (number : Nat) : hexNumber (paddedHex number) = number := by
  have zeros : ∀ count : Nat,
      (List.replicate count '0').foldl (fun number char => number * 16 + hexValue char) 0 = 0 := by
    intro count
    induction count with
    | zero => rfl
    | succ count ih => rw [List.replicate_succ, List.foldl_cons]; exact ih
  rw [paddedHex, hexNumber, List.foldl_append, zeros]
  exact hexNumber_hexDigits number

theorem dash_not_mem_hexDigits (number : Nat) : '-' ∉ hexDigits number := by
  induction number using hexDigits.induct with
  | case1 number small =>
    rw [hexDigits, if_pos small]
    simpa using (hexChar_ne_dash _).symm
  | case2 number large ih =>
    rw [hexDigits, if_neg large]
    simpa using ⟨ih, (hexChar_ne_dash _).symm⟩

theorem dash_not_mem_paddedHex (number : Nat) : '-' ∉ paddedHex number := by
  rw [paddedHex, List.mem_append]
  rintro (zero | digit)
  · exact absurd (List.eq_of_mem_replicate zero) (by decide)
  · exact dash_not_mem_hexDigits number digit

/-- The id that is made for something as the one of a number. -/
def id (kind : String) (number : Nat) : String :=
  String.ofList (kind.toList ++ '-' :: paddedHex number)

theorem id_injective {kind kind' : String} {number number' : Nat}
    (same : id kind number = id kind' number') : number = number' := by
  have chars : kind.toList ++ '-' :: paddedHex number = kind'.toList ++ '-' :: paddedHex number' := by
    simpa [id] using congrArg String.toList same
  have tail : ∀ (name : List Char) (number : Nat),
      (name ++ '-' :: paddedHex number).reverse.takeWhile (· ≠ '-') = (paddedHex number).reverse := by
    intro name number
    rw [List.reverse_append, List.reverse_cons, List.append_assoc, List.takeWhile_append_of_pos]
    · simp
    · intro char member
      have : char ≠ '-' := fun dash =>
        dash_not_mem_paddedHex number (dash ▸ List.mem_reverse.mp member)
      simpa using this
  have digits : paddedHex number = paddedHex number' :=
    List.reverse_inj.mp (by rw [← tail kind.toList, ← tail kind'.toList, chars])
  rw [← hexNumber_paddedHex number, ← hexNumber_paddedHex number', digits]

/-- Makes the next id for something. -/
def take (supply : IdSupply) (kind : String) : String × IdSupply :=
  (id kind supply.next, ⟨supply.next + 1⟩)

end IdSupply

end FormEditor
