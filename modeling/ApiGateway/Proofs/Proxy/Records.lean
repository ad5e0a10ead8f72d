import ApiGateway.Proofs.Attempts
import ApiGateway.Proofs.Proxy.Ownership
import ApiGateway.Proofs.Reading.Mirrors
import ApiGateway.Proofs.Text.Sequences
import ApiGateway.Proxy.ServiceCall
import Mathlib.Data.List.TakeWhile

/-
The bodies of calls, written and read back.

* `Registration.said?_encode` - a record says the services that were announced, blank names or not.
* `ServiceCall.Separable` - no name of a call holds the separator. Only such a call is written
  (`ServiceCall.encode_of_separable`, `ServiceCall.encode_of_not_separable`).
* `ServiceCall.decode_encode` - a call that was written is read again, whatever its parameters are.
* `ServiceCall.Parts`, `ServiceCall.Faulty` - a body cut at its first two separators, and what is
  reported of one that is no call.
* `ServiceCall.inverts_decode` - bodies and calls correspond one to one.
-/

namespace ApiGateway

/-! ### Registrations -/

namespace Json

theorem depth_strings (xs : List String) : (strings xs).depth = 1 := by
  rw [strings, depth]
  induction xs with
  | nil => rfl
  | cons x xs ih => simpa [depthOfItems, depth] using ih

theorem integral_strings (xs : List String) : (strings xs).Integral := by
  simp [strings]

/-- The bytes of the text of a value are read as its tree. -/
theorem Node.parseBytes?_text {v : Json} (integral : v.Integral) (shallow : v.depth ≤ depthLimit) :
    parseBytes? (Text.encode v.text) = some (ofJson v) := by
  rw [parseBytes?, charsOfBytes_encode, text, String.toList_ofList, parse?_chars integral shallow]

end Json

namespace Registration

/-- The record of an announcement as JSON. -/
def slots (reg : Registration) : List (String × Option Json) :=
  [("serviceNames", some (Json.strings reg.services))]

theorem read?_slots (reg : Registration) :
    read? (m := Option) (Json.Node.ofJson (.object (Json.present reg.slots))) = some reg := by
  have mirrors := Reading.mirrors_ofJson
  have services : Reading.member? (Reading.memberTrees Json.Node.ofJson reg.slots) 0
      (Reading.listOf? Reading.text?) = some reg.services :=
    mirrors.listOf? fun s _ => mirrors.text s
  rw [read?, mirrors.members? (by rfl)]
  simp only [Option.bind_eq_bind, Option.bind_some, services, Option.pure_def]

/-- A record says what was announced. -/
theorem said?_encode (reg : Registration) : said? reg.encode = some reg := by
  have integral : (Json.object (Json.present reg.slots)).Integral := by
    rw [Json.integral_present]
    intro slot there v held
    cases List.mem_singleton.mp there
    cases held
    exact Json.integral_strings reg.services
  have shallow : (Json.object (Json.present reg.slots)).depth ≤ Json.Node.depthLimit := by
    have two : (Json.object (Json.present reg.slots)).depth = 2 := by
      simp [slots, Json.present, Json.optionalEntry, Json.depth, Json.depthOfEntries,
        Json.depth_strings]
    rw [two]
    decide
  have parsed : Json.Node.parseBytes? reg.encode =
      some (Json.Node.ofJson (.object (Json.present reg.slots))) :=
    Json.Node.parseBytes?_text integral shallow
  rw [said?, parsed]
  exact read?_slots reg

end Registration

/-! ### Calls that can be written -/

namespace ServiceCall

/-- No name of the call holds the separator. -/
def Separable (c : ServiceCall) : Prop := '\x00' ∉ c.service.toList ∧ '\x00' ∉ c.method.toList

instance (c : ServiceCall) : Decidable c.Separable := inferInstanceAs (Decidable (_ ∧ _))

/-- A call that can be written is written as its parts with the separators between them. -/
theorem encode_of_separable {c : ServiceCall} (separable : c.Separable) :
    c.encode = .ok (Text.encode c.service ++ 0 :: Text.encode c.method ++ 0 :: c.params) := by
  obtain ⟨service, method⟩ := separable
  have service : (Text.encode c.service).contains 0 = false := by
    simpa [Text.zero_mem_encode] using service
  have method : (Text.encode c.method).contains 0 = false := by
    simpa [Text.zero_mem_encode] using method
  rw [encode]
  exact if_neg (by rw [service, method]; decide)

theorem encode_of_not_separable {c : ServiceCall} (inseparable : ¬ c.Separable) :
    c.encode = .error (.malformedCall .containsNul) := by
  have held : ((Text.encode c.service).contains 0 || (Text.encode c.method).contains 0) = true := by
    rw [Separable, not_and_or, not_not, not_not] at inseparable
    simpa [Text.zero_mem_encode] using inseparable
  rw [encode]
  exact if_pos held

/-! ### Bodies and their parts -/

/-- Bytes are cut at the first separator. -/
theorem cut?_append {front : Bytes} (whole : 0 ∉ front) (rest : Bytes) :
    cut? (front ++ 0 :: rest) = some (front, rest) := by
  have other : ∀ b ∈ front, decide (b ≠ 0) = true := fun b there =>
    decide_eq_true fun zero => whole (zero ▸ there)
  rw [cut?, List.dropWhile_append_of_pos other, List.takeWhile_append_of_pos other]
  simp

theorem cut?_of_not_mem {bs : Bytes} (unbroken : 0 ∉ bs) : cut? bs = none := by
  have all : bs.dropWhile (fun b => decide (b ≠ 0)) = [] :=
    List.dropWhile_eq_nil_iff.mpr fun b there => decide_eq_true fun zero => unbroken (zero ▸ there)
  rw [cut?, all]

theorem cut?_eq_none_iff {bs : Bytes} : cut? bs = none ↔ 0 ∉ bs := by
  refine ⟨fun uncut there => ?_, cut?_of_not_mem⟩
  obtain ⟨front, rest, rfl, whole⟩ := List.eq_append_cons_of_mem there
  rw [cut?_append whole] at uncut
  cases uncut

/-- The front of bytes is what comes before their first separator. -/
theorem cut?_eq_some_iff {bs front rest : Bytes} :
    cut? bs = some (front, rest) ↔ bs = front ++ 0 :: rest ∧ 0 ∉ front := by
  constructor
  · intro found
    by_cases there : 0 ∈ bs
    · obtain ⟨front', rest', rfl, whole⟩ := List.eq_append_cons_of_mem there
      cases (cut?_append whole rest').symm.trans found
      exact ⟨rfl, whole⟩
    · cases (cut?_of_not_mem there).symm.trans found
  · rintro ⟨rfl, whole⟩
    exact cut?_append whole rest

/-- A body is service and method bytes, each with a separator after it, and parameters. -/
structure Parts (body service method params : Bytes) : Prop where
  whole : body = service ++ 0 :: method ++ 0 :: params
  service : 0 ∉ service
  method : 0 ∉ method

theorem parts?_eq_some_iff {body service method params : Bytes} :
    parts? body = some (service, method, params) ↔ Parts body service method params := by
  simp only [parts?, Option.bind_eq_bind, Option.bind_eq_some_iff, Option.pure_def,
    Option.some.injEq, Prod.exists, cut?_eq_some_iff]
  constructor
  · rintro ⟨service, rest, ⟨rfl, first⟩, method, params, ⟨rfl, second⟩, ⟨⟩⟩
    exact ⟨by rw [List.append_assoc, List.cons_append], first, second⟩
  · rintro ⟨rfl, first, second⟩
    exact ⟨service, _, ⟨by rw [List.append_assoc, List.cons_append], first⟩, method, params,
      ⟨rfl, second⟩, rfl⟩

/-- What lacks a separator has no three parts. -/
theorem parts?_eq_none_iff {body : Bytes} : parts? body = none ↔ body.count 0 < 2 := by
  simp only [parts?, Option.bind_eq_bind, Option.pure_def]
  cases found : cut? body with
  | none =>
    have unbroken := List.count_eq_zero.mpr (cut?_eq_none_iff.mp found)
    simp [unbroken]
  | some halves =>
    obtain ⟨front, rest⟩ := halves
    obtain ⟨rfl, whole⟩ := cut?_eq_some_iff.mp found
    have count : (front ++ 0 :: rest).count 0 = rest.count 0 + 1 := by
      rw [List.count_append, List.count_eq_zero.mpr whole, List.count_cons_self, Nat.zero_add]
    have second : cut? rest = none ↔ rest.count 0 + 1 < 2 := by
      rw [cut?_eq_none_iff, ← List.count_eq_zero]
      omega
    rw [count, ← second]
    cases found' : cut? rest <;> simp [found']

/-! ### Calls and their bodies -/

theorem name_eq_ok_iff {part s : String} {bs : Bytes} :
    name part bs = .ok s ↔ Text.encode s = bs := by
  rw [← Text.decode?_eq_some_iff, name]
  cases Text.decode? bs <;> simp

theorem name_eq_error_iff {part : String} {bs : Bytes} {e : ProxyError} :
    name part bs = .error e ↔
      (∀ s, Text.encode s ≠ bs) ∧ e = .malformedCall (.notUtf8 part) := by
  rw [← Text.decode?_eq_none_iff, name]
  cases Text.decode? bs <;> simp [eq_comm]

/-- A call is written as its parts. -/
theorem encode_eq_ok_iff {c : ServiceCall} {body : Bytes} : c.encode = .ok body ↔
    Parts body (Text.encode c.service) (Text.encode c.method) c.params := by
  constructor
  · intro encoded
    by_cases separable : c.Separable
    · cases (encode_of_separable separable).symm.trans encoded
      obtain ⟨service, method⟩ := separable
      exact ⟨rfl, Text.zero_mem_encode.not.mpr service, Text.zero_mem_encode.not.mpr method⟩
    · cases (encode_of_not_separable separable).symm.trans encoded
  · rintro ⟨rfl, service, method⟩
    have separable : c.Separable :=
      ⟨Text.zero_mem_encode.not.mp service, Text.zero_mem_encode.not.mp method⟩
    exact encode_of_separable separable

/-- A body is read as the call of which it has the parts. -/
theorem decode_eq_ok_iff {c : ServiceCall} {body : Bytes} : decode body = .ok c ↔
    Parts body (Text.encode c.service) (Text.encode c.method) c.params := by
  rw [← parts?_eq_some_iff, decode]
  cases parts? body with
  | none => simp
  | some found =>
    obtain ⟨service, method, params⟩ := found
    simp only [bind_eq_ok_iff, name_eq_ok_iff, Option.some.injEq, Prod.mk.injEq]
    constructor
    · rintro ⟨service, rfl, method, rfl, ⟨⟩⟩
      exact ⟨rfl, rfl, rfl⟩
    · rintro ⟨rfl, rfl, rfl⟩
      exact ⟨_, rfl, _, rfl, rfl⟩

/-- A call that was written is read again. -/
theorem decode_encode {c : ServiceCall} {body : Bytes} (encoded : c.encode = .ok body) :
    decode body = .ok c :=
  decode_eq_ok_iff.mpr (encode_eq_ok_iff.mp encoded)

/-- What is reported of a body that is no call. -/
inductive Faulty (body : Bytes) : ProxyError → Prop where
  | missing : body.count 0 < 2 → Faulty body (.malformedCall .missingParts)
  | service {service method params : Bytes} : Parts body service method params →
    (∀ s, Text.encode s ≠ service) → Faulty body (.malformedCall (.notUtf8 "service"))
  | method {service method params : Bytes} : Parts body service method params →
    (∃ s, Text.encode s = service) → (∀ s, Text.encode s ≠ method) →
    Faulty body (.malformedCall (.notUtf8 "method"))

theorem decode_eq_error_iff {body : Bytes} {e : ProxyError} :
    decode body = .error e ↔ Faulty body e := by
  rw [decode]
  cases found : parts? body with
  | none =>
    have lacking := parts?_eq_none_iff.mp found
    constructor
    · intro failed
      cases failed
      exact .missing lacking
    · rintro (_ | parts | parts)
      · rfl
      all_goals cases found.symm.trans (parts?_eq_some_iff.mpr parts)
  | some parts =>
    obtain ⟨service, method, params⟩ := parts
    have parts := parts?_eq_some_iff.mp found
    simp only [bind_eq_error_iff, name_eq_error_iff, name_eq_ok_iff]
    constructor
    · rintro (⟨none, rfl⟩ | ⟨s, named, ⟨none, rfl⟩ | ⟨_, _, ⟨⟩⟩⟩)
      · exact .service parts none
      · exact .method parts ⟨s, named⟩ none
    · intro faulty
      cases faulty with
      | missing lacking => cases found.symm.trans (parts?_eq_none_iff.mpr lacking)
      | service parts' none =>
        cases found.symm.trans (parts?_eq_some_iff.mpr parts')
        exact .inl ⟨none, rfl⟩
      | method parts' named none =>
        cases found.symm.trans (parts?_eq_some_iff.mpr parts')
        obtain ⟨s, named⟩ := named
        exact .inr ⟨s, named, .inl ⟨none, rfl⟩⟩

/-- **Bodies and calls correspond one to one.** A call is written unless a name holds the separator,
and is read again with its parameters, whatever bytes these are. A body is read unless it lacks a
separator or a name in it is no text, the service before the method, and what is read is written as
the same body. -/
theorem inverts_decode :
    (∀ (c : ServiceCall) e, c.encode = .error e ↔
      ('\x00' ∈ c.service.toList ∨ '\x00' ∈ c.method.toList) ∧
        e = .malformedCall .containsNul) ∧
    (∀ c : ServiceCall, c.Separable → ∃ body, c.encode = .ok body ∧ decode body = .ok c) ∧
    (∀ body c, decode body = .ok c → c.encode = .ok body) ∧
    ∀ body e, decode body = .error e ↔ Faulty body e := by
  refine ⟨fun c e => ?_, fun c separable => ?_, fun body c decoded => ?_,
    fun body e => decode_eq_error_iff⟩
  · have held : ('\x00' ∈ c.service.toList ∨ '\x00' ∈ c.method.toList) ↔ ¬ c.Separable := by
      rw [Separable, not_and_or, not_not, not_not]
    rw [held]
    by_cases separable : c.Separable
    · simp [encode_of_separable separable, separable]
    · simp [encode_of_not_separable separable, separable, eq_comm]
  · have encoded := encode_of_separable separable
    exact ⟨_, encoded, decode_encode encoded⟩
  · exact encode_eq_ok_iff.mpr (decode_eq_ok_iff.mp decoded)

end ServiceCall

end ApiGateway
