/-!
# Texts

A text is a row of code points. Most code points are characters. The others are the halves of
surrogate pairs, which no character has the number of; a text that comes from outside can hold them
alone. The texts without halves are those that a `String` can be, and a string stands for itself
where a text is expected.

A text is written in octets, and an encoding does not have octets for all code points: ASCII has
none from 128 on, and UTF-8 has none for halves. The first run of such code points is reported.
-/

namespace SiteStats

/-- A code point: a character, or half of a surrogate pair by its distance from the first of them.
-/
inductive Point where
  | char (c : Char)
  | half (offset : Fin 0x800)
deriving DecidableEq, Repr

namespace Point

instance : Coe Char Point := ⟨char⟩

/-- The number of a code point. -/
def toNat : Point → Nat
  | char c => c.toNat
  | half offset => 0xD800 + offset

/-- The code point with a number. -/
def ofNat (n : Nat) : Point :=
  if n.isValidChar then char (Char.ofNat n) else half (Fin.ofNat 0x800 (n - 0xD800))

/-- The character that a code point is. -/
def char? : Point → Option Char
  | char c => some c
  | half _ => none

@[simp] theorem ofNat_toNat (point : Point) : ofNat point.toNat = point := by
  cases point with
  | char c =>
    have hvalid : c.toNat.isValidChar := c.valid
    simp [ofNat, toNat, hvalid]
  | half offset =>
    have hinvalid : ¬(half offset).toNat.isValidChar := by
      have := offset.isLt
      simp only [toNat, Nat.isValidChar]
      omega
    have hoffset : (half offset).toNat - 0xD800 = offset := by simp only [toNat]; omega
    rw [ofNat, if_neg hinvalid, hoffset, Fin.ofNat_val_eq_self]

end Point

/-- A text by its code points. -/
structure Text where
  toList : List Point
deriving DecidableEq, Repr, Inhabited

namespace Text

/-- The text that a string is. -/
def ofString (s : String) : Text := ⟨s.toList.map .char⟩

instance : Coe String Text := ⟨ofString⟩

instance : Append Text := ⟨fun s t => ⟨s.toList ++ t.toList⟩⟩

/-- Texts one after the other with a separator between them. -/
def intercalate (separator : Text) (parts : List Text) : Text :=
  ⟨separator.toList.intercalate (parts.map toList)⟩

/-- The string that a text is, if there is no half in it. -/
def string? (t : Text) : Option String :=
  (t.toList.mapM Point.char?).map String.ofList

/-- A text with three replacement characters in the place of each half, one for every octet that the
half would have in UTF-8. -/
def lossy (t : Text) : String :=
  String.ofList <| t.toList.flatMap fun point =>
    match point.char? with
    | some c => [c]
    | none => List.replicate 3 '\ufffd'

theorem ext_toList {s t : Text} (h : s.toList = t.toList) : s = t := by
  cases s; cases t; simp_all

@[simp] theorem toList_inj {s t : Text} : s.toList = t.toList ↔ s = t :=
  ⟨ext_toList, congrArg toList⟩

@[simp] theorem toList_ofString (s : String) : (ofString s).toList = s.toList.map .char := rfl

@[simp] theorem toList_append (s t : Text) : (s ++ t).toList = s.toList ++ t.toList := rfl

@[simp] theorem toList_intercalate (separator : Text) (parts : List Text) :
    (intercalate separator parts).toList = separator.toList.intercalate (parts.map toList) := rfl

@[simp] theorem intercalate_nil (separator : Text) : intercalate separator [] = "" := by
  simp [← toList_inj, List.intercalate]

@[simp] theorem intercalate_singleton (separator part : Text) :
    intercalate separator [part] = part := by
  simp [← toList_inj, List.intercalate]

@[simp] theorem map_char_inj {cs ds : List Char} :
    cs.map Point.char = ds.map Point.char ↔ cs = ds :=
  List.map_inj_right fun _ _ h => Point.char.inj h

@[simp] theorem ofString_inj {s t : String} : ofString s = ofString t ↔ s = t := by
  rw [← toList_inj, toList_ofString, toList_ofString, map_char_inj, String.toList_inj]

@[simp] theorem ofString_beq (s t : String) : (ofString s == ofString t) = (s == t) := by
  rw [Bool.eq_iff_iff, beq_iff_eq, beq_iff_eq, ofString_inj]

@[simp] theorem ofString_append (s t : String) : ofString (s ++ t) = ofString s ++ ofString t := by
  simp [← toList_inj]

theorem mapM_char?_eq_some_iff {points : List Point} {cs : List Char} :
    points.mapM Point.char? = some cs ↔ points = cs.map .char := by
  induction points generalizing cs with
  | nil => cases cs <;> simp
  | cons point rest ih =>
    cases point <;> cases cs <;> simp [List.mapM_cons, Point.char?, Option.bind_eq_some_iff, ih]
    grind

@[simp] theorem string?_eq_some_iff {t : Text} {s : String} : t.string? = some s ↔ t = s := by
  simp only [string?, Option.map_eq_some_iff, mapM_char?_eq_some_iff, ← toList_inj, toList_ofString]
  constructor
  · rintro ⟨cs, h, rfl⟩
    simpa using h
  · exact fun h => ⟨s.toList, h, String.ofList_toList⟩

@[simp] theorem string?_ofString (s : String) : (ofString s).string? = some s := by simp

/-! ## Encodings -/

/-- A number in exactly `width` hexadecimal digits, the highest ones dropped if they do not fit. -/
def hex (width n : Nat) : List Char :=
  match width with
  | 0 => []
  | width + 1 => hex width (n / 16) ++ [Nat.digitChar (n % 16)]

/-- The encodings in which texts are written. -/
inductive Charset where
  | ascii
  | utf8
deriving DecidableEq, Repr

/-- The name of an encoding. -/
def Charset.title : Charset → String
  | ascii => "ascii"
  | utf8 => "utf-8"

/-- Whether an encoding has octets for a code point. -/
def Charset.encodes (charset : Charset) (point : Point) : Bool :=
  match charset with
  | ascii => point.toNat < 0x80
  | utf8 => point.char?.isSome

/-- Why an encoding has no octets for a code point. -/
def Charset.reason : Charset → String
  | ascii => "ordinal not in range(128)"
  | utf8 => "surrogates not allowed"

/-- The code points of a text that cannot be encoded: the first run of them and its position. -/
structure Unencodable where
  charset : Charset
  position : Nat
  run : List Point
deriving DecidableEq, Repr

/-- What of a text cannot be encoded. -/
def unencodable? (charset : Charset) (t : Text) : Option Unencodable :=
  match (t.toList.dropWhile charset.encodes).takeWhile (!charset.encodes ·) with
  | [] => none
  | run => some ⟨charset, (t.toList.takeWhile charset.encodes).length, run⟩

/-- A code point by its number. -/
def numbered (point : Point) : String :=
  let n := point.toNat
  String.ofList <| '\\' ::
    if n < 0x100 then 'x' :: hex 2 n
    else if n < 0x10000 then 'u' :: hex 4 n
    else 'U' :: hex 8 n

/-- The text of what cannot be encoded. -/
def Unencodable.message (fault : Unencodable) : String :=
  let place :=
    match fault.run with
    | [point] => s!"character '{numbered point}' in position {fault.position}"
    | run => s!"characters in position {fault.position}-{fault.position + run.length - 1}"
  s!"'{fault.charset.title}' codec can't encode {place}: {fault.charset.reason}"

/-- The string that a text is, or what stands in the way of writing it in UTF-8. -/
def whole (t : Text) : Except Unencodable String :=
  match unencodable? .utf8 t with
  | some fault => .error fault
  | none => .ok (String.ofList (t.toList.filterMap Point.char?))

theorem unencodable?_eq_none_iff (charset : Charset) (t : Text) :
    unencodable? charset t = none ↔ ∀ point ∈ t.toList, charset.encodes point := by
  obtain ⟨points⟩ := t
  unfold unencodable?
  induction points with
  | nil => simp
  | cons point rest ih =>
    cases h : charset.encodes point with
    | false => simp [h]
    | true =>
      rw [List.forall_mem_cons, ← ih, List.dropWhile_cons_of_pos h]
      cases (rest.dropWhile charset.encodes).takeWhile (!charset.encodes ·) <;> simp [h]

/-- UTF-8 has octets for exactly the texts that are strings. -/
theorem whole_eq_ok_iff {t : Text} {s : String} : t.whole = .ok s ↔ t = s := by
  have hstring : t.whole = .ok s ↔
      (∀ point ∈ t.toList, Charset.utf8.encodes point) ∧
        String.ofList (t.toList.filterMap Point.char?) = s := by
    rw [← unencodable?_eq_none_iff]
    unfold whole
    split <;> simp_all
  rw [hstring]
  constructor
  · rintro ⟨hall, rfl⟩
    obtain ⟨points⟩ := t
    refine ext_toList ?_
    rw [toList_ofString, String.toList_ofList]
    clear hstring
    induction points with
    | nil => rfl
    | cons point rest ih =>
      obtain ⟨hpoint, hrest⟩ := List.forall_mem_cons.mp hall
      cases point with
      | char c => simpa [Point.char?] using ih hrest
      | half offset => cases hpoint
  · rintro rfl
    constructor
    · intro point hpoint
      obtain ⟨c, -, rfl⟩ := List.mem_map.mp hpoint
      rfl
    · simp [List.filterMap_map, Function.comp_def, Point.char?]

end Text

end SiteStats
