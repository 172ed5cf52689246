import EnergyAudit.Files.Listing
import EnergyAudit.Proofs.Files.Joining

/-!
# Names of bytes

A name in a directory is made of bytes, and these need not encode a text.  It is read as the text
whose characters have the codes of its bytes.  Nothing that is asked of names tells the two apart:
they are in the same order, the same directories are passed over, and the same names have the ending
of Python, for all that names are compared with is written in characters of a single byte.

## Main definitions

* `nameOfBytes` — the text that a name of bytes is read as.
* `bytesOf` — the bytes of a text.

## Main results

* `nameOfBytes_lt_iff`, `lex_nameOfBytes_iff` — names are in the order of their bytes.
* `isPassedOver_nameOfBytes` — which directories are passed over.
* `extensionOfName?_nameOfBytes_iff` — which names have the ending of Python.
-/

namespace EnergyAudit.Files

/-- The text that a name of bytes is read as: its characters have the codes of the bytes. -/
def nameOfBytes (bytes : List UInt8) : String := .ofList (bytes.map .ofUInt8)

theorem toNat_val_ofUInt8 (a : UInt8) : (Char.ofUInt8 a).val.toNat = a.toNat :=
  UInt8.toNat_toUInt32 a

theorem ofUInt8_lt_iff {a b : UInt8} : Char.ofUInt8 a < .ofUInt8 b ↔ a < b := by
  rw [Char.lt_def, UInt32.lt_iff_toNat_lt, toNat_val_ofUInt8, toNat_val_ofUInt8,
    UInt8.lt_iff_toNat_lt]

theorem ofUInt8_injective : Function.Injective Char.ofUInt8 := by
  intro a b h
  have hcode : (Char.ofUInt8 a).val.toNat = (Char.ofUInt8 b).val.toNat := by rw [h]
  rw [toNat_val_ofUInt8, toNat_val_ofUInt8] at hcode
  exact UInt8.toNat_inj.mp hcode

@[simp] theorem toList_nameOfBytes (bytes : List UInt8) :
    (nameOfBytes bytes).toList = bytes.map .ofUInt8 :=
  String.toList_ofList

theorem nameOfBytes_injective : Function.Injective nameOfBytes := fun _ _ h =>
  ofUInt8_injective.list_map (String.ofList_injective h)

/-- Lists are in the same order when their elements are replaced by others that are in the same
order. -/
theorem lt_map_iff {α β : Type} [LT α] [LT β] {f : α → β} (hf : Function.Injective f)
    (hlt : ∀ {a b}, f a < f b ↔ a < b) {as : List α} :
    ∀ {bs : List α}, as.map f < bs.map f ↔ as < bs := by
  induction as with
  | nil =>
    intro bs
    cases bs <;> simp
  | cons a as ih =>
    intro bs
    cases bs with
    | nil => simp
    | cons b bs => simp only [List.map_cons, List.cons_lt_cons_iff, hlt, hf.eq_iff, ih]

/-- **Names are in the order of their bytes.** -/
theorem nameOfBytes_lt_iff {as bs : List UInt8} : nameOfBytes as < nameOfBytes bs ↔ as < bs := by
  rw [String.lt_iff_toList_lt, toList_nameOfBytes, toList_nameOfBytes]
  exact lt_map_iff ofUInt8_injective ofUInt8_lt_iff

/-- So are the names that lead to files, one name after another. -/
theorem lex_nameOfBytes_iff {as bs : List (List UInt8)} :
    List.Lex (· < ·) (as.map nameOfBytes) (bs.map nameOfBytes) ↔ List.Lex (· < ·) as bs :=
  lt_map_iff nameOfBytes_injective nameOfBytes_lt_iff

/-- The bytes of a text. -/
def bytesOf (text : String) : List UInt8 := text.toUTF8.data.toList

theorem singleton_prefix_nameOfBytes_iff (byte : UInt8) (bytes : List UInt8) :
    [Char.ofUInt8 byte] <+: (nameOfBytes bytes).toList ↔ [byte] <+: bytes := by
  rw [toList_nameOfBytes]
  cases bytes with
  | nil => simp
  | cons b bytes => simp [List.cons_prefix_cons, ofUInt8_injective.eq_iff]

/-- A directory is passed over if its name starts with the byte of a dot, or is among those that are
passed over byte by byte. -/
theorem isPassedOver_nameOfBytes (bytes : List UInt8) :
    isPassedOver (nameOfBytes bytes) = true ↔
      [46] <+: bytes ∨ bytes ∈ passedOverNames.map bytesOf := by
  have hnames : passedOverNames = (passedOverNames.map bytesOf).map nameOfBytes := by decide
  have hmem : nameOfBytes bytes ∈ passedOverNames ↔ bytes ∈ passedOverNames.map bytesOf := by
    conv_lhs => rw [hnames]
    exact List.mem_map_of_injective nameOfBytes_injective
  have hdot : '.' = Char.ofUInt8 46 := by decide
  rw [isPassedOver, Bool.or_eq_true, List.contains_iff_mem, hmem,
    ← singleton_prefix_nameOfBytes_iff, ← hdot]
  simp

/-- The ending of a name is that of Python if the bytes for it are at its end and something is
before them. -/
theorem extensionOfName?_nameOfBytes_iff {bytes : List UInt8} :
    extensionOfName? (nameOfBytes bytes) = some "py" ↔
      ∃ before, before ≠ [] ∧ bytes = before ++ [46, 112, 121] := by
  have hending : ".py".toList = [46, 112, 121].map Char.ofUInt8 := by decide
  rw [extensionOfName?_eq_some_iff]
  constructor
  · rintro ⟨-, before, hbefore, hname⟩
    have hchars : bytes.map Char.ofUInt8 = before.toList ++ [46, 112, 121].map Char.ofUInt8 := by
      rw [← toList_nameOfBytes, hname, ← hending, String.append_assoc, String.toList_append]
      rfl
    obtain ⟨before', ending, rfl, hbefore', hend⟩ := List.map_eq_append_iff.mp hchars
    obtain rfl := ofUInt8_injective.list_map hend
    refine ⟨before', ?_, rfl⟩
    rintro rfl
    exact hbefore (String.toList_eq_nil_iff.mp hbefore'.symm)
  · rintro ⟨before, hbefore, rfl⟩
    refine ⟨by decide, nameOfBytes before, ?_, ?_⟩
    · rw [Ne, ← String.toList_eq_nil_iff]
      simpa using hbefore
    · rw [← String.toList_inj, toList_nameOfBytes, List.map_append, ← hending, String.append_assoc,
        String.toList_append, toList_nameOfBytes]
      rfl

/-- Which names an entry can have does not depend on the reading. -/
theorem isEntryName_nameOfBytes_iff {bytes : List UInt8} :
    IsEntryName (nameOfBytes bytes) ↔
      bytes ≠ [] ∧ 47 ∉ bytes ∧ bytes ≠ [46] ∧ bytes ≠ [46, 46] := by
  have hempty : "" = nameOfBytes [] := by decide
  have hhere : "." = nameOfBytes [46] := by decide
  have hup : ".." = nameOfBytes [46, 46] := by decide
  have hslash : '/' = Char.ofUInt8 47 := by decide
  rw [isEntryName_iff, hempty, hhere, hup, hslash, toList_nameOfBytes,
    List.mem_map_of_injective ofUInt8_injective]
  simp only [Ne, nameOfBytes_injective.eq_iff]

end EnergyAudit.Files
