import SiteStats.Proofs.Json.Returned

/-!
# The members of an object that is read

In a JSON text an object may have several members of one name.  The value that is read has one field
for them, in the place of the first and with the value of the last, so that the value alone does not
tell how it was written.  `BodyMembers` does: it says which members stand in a body, one after the
other, and `readBody_eq_object_iff` that the object that is read holds the last value of each name.
-/

namespace SiteStats

lemma Fields.lookup_ofPairs (pairs : List (Text × Value)) (name : Text) :
    (Fields.ofPairs pairs).lookup name = pairs.reverse.lookup name := by
  have fold : ∀ fields : Fields,
      Fields.lookup (pairs.foldl (fun fields pair => set pair.1 pair.2 fields) fields) name =
        (pairs.reverse.lookup name).or (fields.lookup name) := by
    induction pairs with
    | nil => simp
    | cons pair pairs ih =>
      intro fields
      rw [List.foldl_cons, ih, lookup_set, List.reverse_cons, List.lookup_append, Option.or_assoc]
      obtain ⟨first, value⟩ := pair
      by_cases hname : name = first
      · simp [hname]
      · simp [List.lookup_cons, hname, beq_eq_false_iff_ne.mpr hname]
  simpa [ofPairs] using fold []

namespace Json

/-! ## Objects in a text -/

/-- A text begins with an object that has these members, with room for so many levels in their
values, and goes on with `rest`. -/
inductive MembersAt (levels : Nat) : List Point → Fields → List Point → Prop
  | none {inner rest : List Point} (closed : skipBlanks inner = .char '\x7d' :: rest) :
      MembersAt levels (.char '\x7b' :: inner) [] rest
  | some {inner rest : List Point} {members : Fields}
      (listed : Yields (fields levels [] (skipBlanks inner)) members rest) :
      MembersAt levels (.char '\x7b' :: inner) members rest

lemma fields_brace {levels : Nat} {done members : Fields} {s rest : List Point} :
    ¬ Yields (fields levels done (.char '\x7d' :: s)) members rest := by
  rw [fields, name]
  · exact yields_error
  · simp

lemma scalar_ne_object {s rest : List Point} {held : Fields} :
    ¬ Yields (scalar s) (.object held) rest := by
  unfold scalar
  split
  · next found rest' hword =>
    obtain ⟨⟨word, value⟩, hmem, hfound⟩ := List.exists_of_findSome?_eq_some hword
    simp only [Option.ite_none_right_eq_some, Option.some.injEq, Prod.mk.injEq] at hfound
    obtain ⟨-, rfl, -⟩ := hfound
    rw [yields_ok]
    rintro ⟨rfl, -⟩
    simp [words] at hmem
  · unfold number
    split
    · next found rest' hnumber =>
      rw [yields_ok]
      rintro ⟨rfl, -⟩
      unfold number? at hnumber
      simp only [] at hnumber
      split at hnumber
      · cases hnumber
      · split at hnumber
        · split at hnumber <;> cases hnumber
        · cases hnumber
    · exact yields_error
    · exact yields_error

/-- **Objects.**  The value at the start of a text is an object when its members stand there, and
its fields are what comes of setting them one after the other. -/
lemma value_eq_object_iff {levels : Nat} {s rest : List Point} {held : Fields} :
    Yields (value levels s) (.object held) rest ↔ ∃ below, levels = below + 1 ∧
      ∃ members, MembersAt below s members rest ∧ held = Fields.ofPairs members := by
  constructor
  · intro h
    obtain ⟨_, htext⟩ | hscalar | ⟨_, _, -, -, hlist | ⟨_, hlist, -⟩⟩ |
      ⟨below, inner, rfl, rfl, ⟨closed, hobject⟩ | ⟨members, hobject, listed⟩⟩ := value_cases h
    · cases htext
    · exact absurd hscalar scalar_ne_object
    · cases hlist
    · cases hlist
    · cases hobject
      exact ⟨below, rfl, [], .none closed, rfl⟩
    · cases hobject
      exact ⟨below, rfl, members, .some listed, rfl⟩
  · rintro ⟨below, rfl, members, closed | listed, rfl⟩
    · exact value_noFields closed
    · refine value_pairs (fun rest' hrest' => ?_) listed
      rw [hrest'] at listed
      exact fields_brace listed

/-! ## Bodies -/

lemma decodeFrom_ascii {octets : List UInt8} (h : ∀ octet ∈ octets, octet < 0x80) :
    ∀ position done, Encoding.utf8.decodeFrom position done octets =
      .ok (done.reverse ++ octets.map fun octet => Point.ofNat octet.toNat) := by
  induction octets with
  | nil =>
    intro position done
    simp [Encoding.decodeFrom]
  | cons octet octets ih =>
    obtain ⟨hoctet, hoctets⟩ := List.forall_mem_cons.mp h
    intro position done
    have hstep : Encoding.utf8.step octet octets = .point octet.toNat 0 := by
      simp [Encoding.step, Text.OctetStep.utf8, hoctet]
    rw [Encoding.decodeFrom, hstep]
    simp [ih hoctets]

section Bodies

variable [room : Room]

/-- A body consists of an object that has these members, in the order in which they stand there. -/
def BodyMembers (body : List UInt8) (members : Fields) : Prop :=
  ∃ points rest below, room.levels = below + 1 ∧
    (Encoded.of body).encoding.decodeFrom (Encoded.of body).position [] (Encoded.of body).octets =
      .ok points ∧
    MembersAt below (skipBlanks points) members rest ∧ skipBlanks rest = []

/-- **Bodies.**  The value of a body is an object when the body has members, and the object holds
for each name the value that stands there last. -/
theorem readBody_eq_object_iff {body : List UInt8} {held : Fields} :
    readBody body = .ok (.object held) ↔
      ∃ members, BodyMembers body members ∧ held = Fields.ofPairs members := by
  have hread : readBody body = .ok (.object held) ↔
      ∃ points, (Encoded.of body).encoding.decodeFrom (Encoded.of body).position []
          (Encoded.of body).octets = .ok points ∧
        whole room.levels points = .ok (.object held) := by
    unfold readBody
    cases hdecoded : (Encoded.of body).encoding.decodeFrom (Encoded.of body).position []
        (Encoded.of body).octets with
    | error fault => simp [hdecoded]
    | ok points => simp only [hdecoded, readPoints, Except.mapError_eq_ok_iff, Except.ok.injEq,
        exists_eq_left']
  rw [hread]
  constructor
  · rintro ⟨points, hdecoded, hwhole⟩
    obtain ⟨rest, hvalue, hend⟩ := whole_eq_ok_iff.mp hwhole
    obtain ⟨below, hbelow, members, hmembers, hheld⟩ := value_eq_object_iff.mp hvalue
    exact ⟨members, ⟨points, rest, below, hbelow, hdecoded, hmembers, hend⟩, hheld⟩
  · rintro ⟨members, ⟨points, rest, below, hbelow, hdecoded, hmembers, hend⟩, hheld⟩
    have hvalue := value_eq_object_iff.mpr ⟨below, hbelow, members, hmembers, hheld⟩
    exact ⟨points, hdecoded, whole_eq_ok_iff.mpr ⟨rest, hvalue, hend⟩⟩

/-- What is written for members is a body that has them, also where names come twice. -/
lemma bodyMembers_of_spells {body : List UInt8} {members : Fields} {written : List Point}
    {below : Nat} (levels : room.levels = below + 1)
    (fits : ∀ pair ∈ members, nesting pair.2 ≤ below)
    (ascii : ∀ octet ∈ body, octet < 0x80) (encoding : Encoded.of body = ⟨.utf8, 0, body⟩)
    (text : (body.map fun octet => Point.ofNat octet.toNat) =
      .char '\x7b' :: written ++ [.char '\x7d'])
    (h : SpellsFields members written) : BodyMembers body members := by
  refine ⟨body.map fun octet => Point.ofNat octet.toNat, [], below, levels, ?_, ?_, rfl⟩
  · rw [encoding]
    exact decodeFrom_ascii ascii 0 []
  · rw [text, List.cons_append, skipBlanks_cons rfl]
    exact .some (h.yields below [] [] fits)

/-- What is read of one character over and over, if that lies beyond a limit, is what is read of it
in ASCII. -/
lemma readBody_replicate {octet : UInt8} {c : Char} {n : Nat} {limit : Limit}
    (ascii : octet < 0x80) (same : Point.ofNat octet.toNat = .char c)
    (utf8 : ∀ m, Encoded.of (List.replicate (m + 4) octet) =
      ⟨.utf8, 0, List.replicate (m + 4) octet⟩)
    (notBlank : isBlank (.char c) = false) (four : 4 ≤ n)
    (beyond : value room.levels (List.replicate n (.char c)) = .error (.beyond limit)) :
    readBody (List.replicate n octet) = .error (.beyond limit) := by
  obtain ⟨m, rfl⟩ : ∃ m, n = m + 4 := ⟨n - 4, by omega⟩
  have hascii : ∀ other ∈ List.replicate (m + 4) octet, other < (0x80 : UInt8) := by
    intro other hother
    rwa [List.eq_of_mem_replicate hother]
  have hblanks : skipBlanks (List.replicate (m + 4) (.char c)) = List.replicate (m + 4) (.char c) :=
    skipBlanks_cons notBlank
  have hvalue : value room.levels (skipBlanks (List.replicate (m + 4) (.char c))) =
      .error (.beyond limit) := by
    rw [hblanks]
    exact beyond
  have hwhole : whole room.levels (List.replicate (m + 4) (.char c)) = .error (.beyond limit) := by
    rw [whole, hvalue]
  rw [readBody, utf8 m]
  simp only [decodeFrom_ascii hascii, List.reverse_nil, List.nil_append, List.map_replicate, same,
    readPoints, hwhole]
  rfl

/-- A body that opens more lists than there is room for is too deep. -/
lemma readBody_brackets {n : Nat} (h : room.levels < n) (four : 4 ≤ n) :
    readBody (List.replicate n 0x5B) = .error (.beyond (.nesting .array)) :=
  readBody_replicate (by decide) rfl (fun _ => rfl) rfl four (value_brackets h)

/-- A whole number can have too many digits for a body. -/
lemma readBody_digits {n : Nat} (h : Numeral.maxDigits < n) :
    readBody (List.replicate n 0x31) = .error (.beyond (.digits n)) :=
  readBody_replicate (by decide) rfl (fun _ => rfl) rfl
    (Nat.le_trans (by decide) (Nat.le_of_lt h)) (value_digits h)

end Bodies

end Json

end SiteStats
