import SiteStats.Proofs.Gateway.DefaultAddress
import SiteStats.Proofs.Gateway.Delivery
import SiteStats.Proofs.Json.Members

/-!
# What becomes of a response

Whatever status and body a response has, there are four things that may become of it
(`Gateway.get_classifies`), and which of them it is does not depend on the order in which body and
status are looked at: what the body complains of goes before the status, and the status before a
body that cannot be read.

A body complains when it is an object whose last `error` counts as true.  Both halves of this are
said here without the reader: `BodyMembers` lists the members as they stand in the body, and `Falsy`
the values that count as false.
-/

namespace SiteStats

/-! ## Truth -/

/-- The values that do not count as true: nothing, the numbers that are zero, and what is empty. -/
inductive Value.Falsy : Value → Prop
  | null : Falsy .null
  | false : Falsy (.bool .false)
  | zero : Falsy (.int 0)
  | positiveZero {x : Float} (bits : x.toBits = 0) : Falsy (.float x)
  | negativeZero {x : Float} (bits : x.toBits = 0x8000000000000000) : Falsy (.float x)
  | noText : Falsy (.text "")
  | noItems : Falsy (.list [])
  | noFields : Falsy (.object [])

lemma Binary64.view_eq_zero_iff {x : Float} :
    (∃ negative exponent, view x = .finite negative 0 exponent) ↔
      x.toBits = 0 ∨ x.toBits = 0x8000000000000000 := by
  have hbits : x.toBits.toNat < 2 ^ 64 := x.toBits.toNat_lt
  have hzero : (x.toBits = 0 ∨ x.toBits = 0x8000000000000000) ↔
      x.toBits.toNat % signBit = 0 := by
    rw [← UInt64.toNat_inj, ← UInt64.toNat_inj]
    simp only [signBit, UInt64.toNat_ofNat, Nat.reducePow, Nat.reduceMod, Nat.zero_mod]
    omega
  rw [hzero]
  unfold view
  simp only [specialExponent, hiddenBit, signBit, Nat.reduceAdd]
  generalize x.toBits.toNat = bits
  by_cases hspecial : bits / 0x10000000000000 % 2048 = 2047
  · have hnonzero : bits % 0x8000000000000000 ≠ 0 := by omega
    by_cases hfraction : bits % 0x10000000000000 = 0 <;> simp [hspecial, hfraction, hnonzero]
  · by_cases hbiased : bits / 0x10000000000000 % 2048 = 0
    · have hfraction : bits % 0x10000000000000 = 0 ↔ bits % 0x8000000000000000 = 0 := by omega
      simp [hbiased, hfraction]
    · have hnonzero : bits % 0x8000000000000000 ≠ 0 := by omega
      simp [hspecial, hbiased, hnonzero]

lemma Value.truthy_float_eq_false_iff {x : Float} :
    (Value.float x).truthy = false ↔ x.toBits = 0 ∨ x.toBits = 0x8000000000000000 := by
  rw [← Binary64.view_eq_zero_iff]
  constructor
  · intro h
    simp only [truthy] at h
    split at h
    · next negative mantissa exponent hview =>
      obtain rfl : mantissa = 0 := by simpa using h
      exact ⟨negative, exponent, hview⟩
    · cases h
  · rintro ⟨negative, exponent, hview⟩
    simp [truthy, hview]

lemma Value.truthy_eq_false_iff {v : Value} : v.truthy = false ↔ v.Falsy := by
  constructor
  · intro h
    cases v with
    | null => exact .null
    | bool b =>
      obtain rfl : b = false := h
      exact .false
    | int n =>
      obtain rfl : n = 0 := by simpa [truthy] using h
      exact .zero
    | float x =>
      obtain hbits | hbits := truthy_float_eq_false_iff.mp h
      · exact .positiveZero hbits
      · exact .negativeZero hbits
    | text t =>
      obtain rfl : t = "" := by simpa [truthy] using h
      exact .noText
    | list items =>
      obtain rfl : items = [] := by simpa [truthy] using h
      exact .noItems
    | object fields =>
      obtain rfl : fields = [] := by simpa [truthy] using h
      exact .noFields
    | day d | moment d | part d => cases h
  · intro h
    cases h with
    | positiveZero bits => exact truthy_float_eq_false_iff.mpr (.inl bits)
    | negativeZero bits => exact truthy_float_eq_false_iff.mpr (.inr bits)
    | null | false | zero | noText | noItems | noFields => rfl

namespace Gateway

open Http Json

/-! ## Statuses -/

/-- The status says that all went well. -/
def Succeeded (response : Response) : Prop :=
  200 ≤ response.status ∧ response.status ≤ 299

lemma isSuccess_iff {response : Response} :
    isSuccess response.status = true ↔ Succeeded response := by
  simp only [isSuccess, Succeeded, Bool.and_eq_true, decide_eq_true_eq]
  omega

lemma statusFault?_eq_none_iff {response : Response} {request : Request} :
    response.statusFault? request = none ↔ Succeeded response := by
  simp [Response.statusFault?, isSuccess_iff]

lemma statusFault?_eq_some_iff {response : Response} {request : Request} {fault : StatusFault} :
    response.statusFault? request = some fault ↔
      fault = ⟨response.status, request.url.text, response.redirect?⟩ ∧ ¬ Succeeded response := by
  by_cases h : Succeeded response
  · simp [Response.statusFault?, isSuccess_iff, h]
  · have hfailed : ¬ isSuccess response.status = true := mt isSuccess_iff.mp h
    rw [Response.statusFault?, if_neg hfailed, Option.some_inj, eq_comm]
    exact ⟨fun heq => ⟨heq, h⟩, And.left⟩

section

variable [Json.Room]

/-! ## Complaints -/

/-- A body complains: it is an object, and its last `error` is this message, which counts as true.
-/
def Complains (body : List UInt8) (message : Value) : Prop :=
  ∃ members, BodyMembers body members ∧ members.reverse.lookup (Wire.error : Text) = some message ∧
    ¬ message.Falsy

lemma complains_iff {body : List UInt8} {message : Value} :
    Complains body message ↔
      ∃ payload, readBody body = .ok payload ∧ errorOf? payload = some message := by
  have htruthy : ¬ message.Falsy ↔ message.truthy = true := by
    rw [← Value.truthy_eq_false_iff, Bool.not_eq_false]
  constructor
  · rintro ⟨members, hbody, hlast, hmessage⟩
    refine ⟨_, readBody_eq_object_iff.mpr ⟨members, hbody, rfl⟩, ?_⟩
    have hfield := (Fields.lookup_ofPairs members (Wire.error : Text)).trans hlast
    exact Option.filter_eq_some_iff.mpr ⟨hfield, htruthy.mp hmessage⟩
  · rintro ⟨payload, hread, herror⟩
    obtain ⟨hfield, hmessage⟩ := Option.filter_eq_some_iff.mp herror
    obtain ⟨held, rfl⟩ := Value.field?_isSome (Option.isSome_of_eq_some hfield)
    obtain ⟨members, hbody, rfl⟩ := readBody_eq_object_iff.mp hread
    have hlast := (Fields.lookup_ofPairs members (Wire.error : Text)).symm.trans hfield
    exact ⟨members, hbody, hlast, htruthy.mpr hmessage⟩

/-! ## The four outcomes -/

/-- The body has more levels than there is room for, which puts an end to its reading at once. -/
def TooDeep (body : List UInt8) : Prop :=
  ∃ container, readBody body = .error (.beyond (.nesting container))

/-- What can be wrong with a body that is not too deep: its octets are no text, its text is not
JSON, or a whole number in it has too many digits. -/
inductive Undecodable : BodyFault → Prop
  | octets (fault : OctetFault) : Undecodable (.octets fault)
  | text (fault : LocatedFault) : Undecodable (.text fault)
  | digits (count : Nat) : Undecodable (.beyond (.digits count))

variable {request : Request} {response : Response} {body : List UInt8}

lemma undecodable_of_fault {fault : BodyFault} (h : readBody body = .error fault)
    (shallow : ¬ TooDeep body) : Undecodable fault := by
  rcases fault with fault | fault | (count | container)
  · exact .octets fault
  · exact .text fault
  · exact .digits count
  · exact absurd ⟨container, h⟩ shallow

/-- What is read from a body complains or not, and if it does not the status decides. -/
lemma classify_of_payload {payload : Value} (h : readBody body = .ok payload) :
    classify request response body =
      (errorOf? payload).elim
        ((response.statusFault? request).elim (.ok payload) fun fault => .error (.status fault))
        fun message => .error (.api message response.status) := by
  simp only [classify, h]
  cases errorOf? payload with
  | some message => rfl
  | none => cases response.statusFault? request <;> rfl

/-- If nothing can be read from a body the status decides as well, unless the body is too deep. -/
lemma classify_of_fault {fault : BodyFault} (h : readBody body = .error fault)
    (shallow : ¬ TooDeep body) :
    classify request response body =
      (response.statusFault? request).elim (.error (.body fault)) fun fault =>
        .error (.status fault) := by
  rw [classify, h]
  split
  · next hread => cases hread
  · next container hread => exact absurd ⟨container, h.trans hread⟩ shallow
  · next hread =>
    obtain rfl := Except.error.inj hread
    cases response.statusFault? request <;> rfl

/-- What comes of a response was in its body. -/
lemma readBody_of_classify {payload : Value} (h : classify request response body = .ok payload) :
    readBody body = .ok payload := by
  cases hread : readBody body with
  | ok found =>
    rw [classify_of_payload hread] at h
    revert h
    cases errorOf? found with
    | some message => rintro ⟨⟩
    | none =>
      cases response.statusFault? request with
      | some fault => rintro ⟨⟩
      | none =>
        rintro ⟨⟩
        rfl
  | error fault =>
    by_cases hdeep : TooDeep body
    · obtain ⟨container, hnested⟩ := hdeep
      rw [classify, hnested] at h
      cases h
    · rw [classify_of_fault hread hdeep] at h
      revert h
      cases response.statusFault? request <;> rintro ⟨⟩

/-- Complaints go before everything else. -/
lemma classify_eq_api_iff (shallow : ¬ TooDeep body) {message : Value} {status : Int} :
    classify request response body = .error (.api message status) ↔
      status = response.status ∧ Complains body message := by
  rw [complains_iff]
  cases hread : readBody body with
  | error fault =>
    rw [classify_of_fault hread shallow]
    cases response.statusFault? request <;> simp
  | ok payload =>
    rw [classify_of_payload hread]
    cases herror : errorOf? payload with
    | some other => simp [herror, eq_comm, and_comm]
    | none => cases response.statusFault? request <;> simp [herror]

/-- The status is what is looked at next. -/
lemma classify_eq_status_iff (shallow : ¬ TooDeep body) {fault : StatusFault} :
    classify request response body = .error (.status fault) ↔
      fault = ⟨response.status, request.url.text, response.redirect?⟩ ∧
        (¬ ∃ message, Complains body message) ∧ ¬ Succeeded response := by
  simp only [complains_iff]
  cases hread : readBody body with
  | error bodyFault =>
    rw [classify_of_fault hread shallow]
    cases hstatus : response.statusFault? request with
    | none => simp [statusFault?_eq_none_iff.mp hstatus]
    | some found => simp [statusFault?_eq_some_iff.mp hstatus, eq_comm]
  | ok payload =>
    rw [classify_of_payload hread]
    cases herror : errorOf? payload with
    | some message => simp [herror]
    | none =>
      cases hstatus : response.statusFault? request with
      | none => simp [herror, statusFault?_eq_none_iff.mp hstatus]
      | some found => simp [herror, statusFault?_eq_some_iff.mp hstatus, eq_comm]

/-- After a success it is said what is wrong with the body. -/
lemma classify_eq_body_iff (shallow : ¬ TooDeep body) {fault : BodyFault} :
    classify request response body = .error (.body fault) ↔
      readBody body = .error fault ∧ Succeeded response := by
  cases hread : readBody body with
  | error bodyFault =>
    rw [classify_of_fault hread shallow]
    cases hstatus : response.statusFault? request with
    | none => simp [statusFault?_eq_none_iff.mp hstatus]
    | some found => simp [statusFault?_eq_some_iff.mp hstatus]
  | ok payload =>
    rw [classify_of_payload hread]
    cases herror : errorOf? payload <;> cases response.statusFault? request <;> simp

/-- What is left are payloads. -/
lemma classify_eq_ok_iff (shallow : ¬ TooDeep body) {payload : Value} :
    classify request response body = .ok payload ↔
      readBody body = .ok payload ∧ (¬ ∃ message, Complains body message) ∧
        Succeeded response := by
  simp only [complains_iff]
  cases hread : readBody body with
  | error bodyFault =>
    rw [classify_of_fault hread shallow]
    cases response.statusFault? request <;> simp
  | ok found =>
    rw [classify_of_payload hread]
    cases herror : errorOf? found with
    | some message => simp [herror]
    | none =>
      cases hstatus : response.statusFault? request with
      | none => simp [herror, statusFault?_eq_none_iff.mp hstatus]
      | some fault => simp [herror, statusFault?_eq_some_iff.mp hstatus]

variable {config : Config} {transport : Transport} {path : String} {params : RawParams}

lemma result_get_of_delivered (hsent : (get config transport path params).request = some request)
    (hdelivered : delivered request (transport request) = .ok (response, body)) :
    (get config transport path params).result = classify request response body := by
  rw [result_get_of_sent hsent, resultOf_eq, hdelivered]
  rfl

/-- What is got for a success whose body is read and does not complain. -/
lemma result_get_of_payload {payload : Value}
    (hsent : (get config transport path params).request = some request)
    (hdelivered : delivered request (transport request) = .ok (response, body))
    (hread : readBody body = .ok payload) (herror : errorOf? payload = none)
    (hsucceeded : Succeeded response) :
    (get config transport path params).result = .ok payload := by
  have hstatus : response.statusFault? request = none := statusFault?_eq_none_iff.mpr hsucceeded
  rw [result_get_of_delivered hsent hdelivered, classify_of_payload hread, herror, hstatus]
  rfl

/-- **Every response.**  What becomes of a response that is delivered is one of four things
(`delivered_response_eq_ok_iff` says which responses are), if its body is not too deep.  It is the
message of its body if the body complains, whatever the status is; otherwise it is the status if
that is none of success, whether or not the body can be read; otherwise it is what is wrong with the
body, if it cannot be read; and otherwise the value that the body holds. -/
theorem get_classifies (hsent : (get config transport path params).request = some request)
    (hdelivered : delivered request (transport request) = .ok (response, body))
    (shallow : ¬ TooDeep body) :
    let result := (get config transport path params).result
    (∀ message status, result = .error (.api message status) ↔
      status = response.status ∧ Complains body message) ∧
    (∀ fault, result = .error (.status fault) ↔
      fault = ⟨response.status, request.url.text, response.redirect?⟩ ∧
        (¬ ∃ message, Complains body message) ∧ ¬ Succeeded response) ∧
    (∀ fault, result = .error (.body fault) ↔
      readBody body = .error fault ∧ Succeeded response) ∧
    (∀ payload, result = .ok payload ↔
      readBody body = .ok payload ∧ (¬ ∃ message, Complains body message) ∧
        Succeeded response) ∧
    ((∃ message status, result = .error (.api message status)) ∨
      (∃ fault, result = .error (.status fault)) ∨
      (∃ fault, Undecodable fault ∧ result = .error (.body fault)) ∨
      ∃ payload, result = .ok payload) := by
  intro result
  have hresult : result = classify request response body := result_get_of_delivered hsent hdelivered
  rw [hresult]
  refine ⟨fun _ _ => classify_eq_api_iff shallow, fun _ => classify_eq_status_iff shallow,
    fun _ => classify_eq_body_iff shallow, fun _ => classify_eq_ok_iff shallow, ?_⟩
  by_cases hcomplains : ∃ message, Complains body message
  · obtain ⟨message, hmessage⟩ := hcomplains
    exact .inl ⟨message, _, (classify_eq_api_iff shallow).mpr ⟨rfl, hmessage⟩⟩
  · by_cases hsucceeded : Succeeded response
    · cases hread : readBody body with
      | error fault =>
        exact .inr (.inr (.inl ⟨fault, undecodable_of_fault hread shallow,
          (classify_eq_body_iff shallow).mpr ⟨hread, hsucceeded⟩⟩))
      | ok payload =>
        exact .inr (.inr (.inr
          ⟨payload, (classify_eq_ok_iff shallow).mpr ⟨hread, hcomplains, hsucceeded⟩⟩))
    · exact .inr (.inl ⟨_, (classify_eq_status_iff shallow).mpr ⟨rfl, hcomplains, hsucceeded⟩⟩)

end

/-- At the default address a request is sent for short parameters of distinct names, and its
response is delivered if it has no headers. -/
lemma sent_and_delivered [Json.Room] {path : String} (hpath : path ∈ paths)
    {pairs : List (String × String)}
    (distinct : ((pairs ++ [(Wire.siteId, "site")]).map Prod.fst).Nodup)
    (length : (Form.encode (pairs ++ [(Wire.siteId, "site")])).length ≤ UrlParts.maxLength)
    (status : Int) (body : List UInt8) :
    let config : Config := ⟨"key", "site", Config.defaultBaseUrl, 30⟩
    let response : Response := ⟨status, [], body⟩
    ∃ request, (get config (fun _ => .response response) path (rawParams (texts pairs))).request =
        some request ∧
      delivered request (.response response) = .ok (response, body) := by
  intro config response
  have hkey : headerFault? config.authorization = none := by decide +kernel
  have hall : allParams config (rawParams (texts pairs)) =
      rawParams (texts (pairs ++ [(Wire.siteId, "site")])) := by
    rw [allParams_rawParams, append_eq_texts_iff.mpr ⟨pairs, rfl, rfl⟩]
  have hwritable : ∀ param ∈ rawParams (texts (pairs ++ [(Wire.siteId, "site")])),
      param.2.isWritable := by
    intro param hparam
    obtain ⟨_, -, rfl⟩ := List.mem_map.mp hparam
    rfl
  have hrequest := @request_at_default config path _ rfl hkey hpath distinct length
  refine ⟨_, request_get_eq_some_iff.mpr ⟨hall ▸ hwritable, hall ▸ hrequest⟩, ?_⟩
  refine delivered_response_eq_ok_iff.mpr ⟨rfl, rfl, rfl, ?_, ?_⟩
  · show "https" ≠ ""
    decide
  · intro location hlocation
    simp [Response.redirect?, Response.header?, response] at hlocation

/-- A success that complains, with the last of two errors. -/
theorem get_classifies_twice :
    let _room : Json.Room := ⟨900⟩
    let config : Config := ⟨"key", "site", Config.defaultBaseUrl, 30⟩
    let body := "\x7b\"error\":\"\",\"error\":\"no\"\x7d".toList.map (·.toNat.toUInt8)
    let response : Response := ⟨200, [], body⟩
    let transport : Transport := fun _ => .response response
    ∃ request, (get config transport Wire.realtimePath []).request = some request ∧
      delivered request (transport request) = .ok (response, body) ∧ ¬ TooDeep body ∧
      (get config transport Wire.realtimePath []).result = .error (.api (.text "no") 200) := by
  intro _room config body response transport
  obtain ⟨request, hsent, hdelivered⟩ := @sent_and_delivered _ Wire.realtimePath
    List.mem_cons_self [] (by decide) (by decide +kernel) 200 body
  have hmembers : BodyMembers body [("error", .text ""), ("error", .text "no")] := by
    have hwritten : ∀ field ∈ ([("error", .text ""), ("error", .text "no")] : Fields),
        Spells field.2 (write field.2) := by
      simp [spells_write_text]
    exact bodyMembers_of_spells rfl (by decide +kernel) (by decide +kernel) (by decide +kernel)
      (by decide +kernel) (spellsFields_write (by simp) hwritten)
  have hmessage : ¬ (Value.text "no").Falsy := by
    rw [← Value.truthy_eq_false_iff]
    decide
  have hcomplains : Complains body (.text "no") := ⟨_, hmembers, rfl, hmessage⟩
  have hshallow : ¬ TooDeep body := by
    rintro ⟨container, hdeep⟩
    have hread := readBody_eq_object_iff.mpr ⟨_, hmembers, rfl⟩
    cases hdeep.symm.trans hread
  obtain ⟨hiff, -⟩ := get_classifies hsent hdelivered hshallow
  exact ⟨request, hsent, hdelivered, hshallow, (hiff _ _).mpr ⟨rfl, hcomplains⟩⟩

/-- An error of the server whose body opens more arrays than there is room for, and a success whose
body is a number with one digit too many.  What is raised for the first is not that the status is an
error, and for the second neither that its octets are no text nor that its text is not JSON: it is
the limit each time. -/
theorem get_classifies_beyond_limits :
    let _room : Json.Room := ⟨900⟩
    let config : Config := ⟨"key", "site", Config.defaultBaseUrl, 30⟩
    let answered (response : Response) (limit : Limit) : Prop :=
      ∃ request, (get config (fun _ => .response response) Wire.realtimePath []).request =
          some request ∧
        delivered request (.response response) = .ok (response, response.body) ∧
        (¬ ∃ message, Complains response.body message) ∧
        (get config (fun _ => .response response) Wire.realtimePath []).result =
          .error (.body (.beyond limit))
    let nested : Response := ⟨500, [], List.replicate 2000 0x5B⟩
    let long : Response := ⟨200, [], List.replicate 4301 0x31⟩
    ¬ Succeeded nested ∧ answered nested (.nesting .array) ∧
      Succeeded long ∧ answered long (.digits 4301) := by
  intro _room config answered nested long
  have hanswered : ∀ (status : Int) (body : List UInt8) (limit : Limit),
      readBody body = .error (.beyond limit) →
      (∀ request, classify request ⟨status, [], body⟩ body = .error (.body (.beyond limit))) →
      answered ⟨status, [], body⟩ limit := by
    intro status body limit hread hclassified
    obtain ⟨request, hsent, hdelivered⟩ := @sent_and_delivered _ Wire.realtimePath
      List.mem_cons_self [] (by decide) (by decide +kernel) status body
    refine ⟨request, hsent, hdelivered, ?_, ?_⟩
    · rintro ⟨message, hmessage⟩
      obtain ⟨payload, hpayload, -⟩ := complains_iff.mp hmessage
      cases hread.symm.trans hpayload
    · exact (result_get_of_delivered hsent hdelivered).trans (hclassified request)
  have hdeep : readBody nested.body = .error (.beyond (.nesting .array)) :=
    readBody_brackets (by decide) (by decide)
  have hdigits : readBody long.body = .error (.beyond (.digits 4301)) :=
    readBody_digits (by decide)
  have hfailed : ¬ Succeeded nested := by simp [Succeeded, nested]
  have hsucceeded : Succeeded long := ⟨by decide, by decide⟩
  refine ⟨hfailed, hanswered _ _ _ hdeep fun request => ?_, hsucceeded,
    hanswered _ _ _ hdigits fun request => ?_⟩
  · rw [classify, hdeep]
  · have hshallow : ¬ TooDeep long.body := by
      rintro ⟨container, hnested⟩
      cases hdigits.symm.trans hnested
    exact (classify_eq_body_iff hshallow).mpr ⟨hdigits, hsucceeded⟩

end Gateway

end SiteStats
