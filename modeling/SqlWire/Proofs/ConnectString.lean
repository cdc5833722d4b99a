import SqlWire.Action
import SqlWire.Proofs.Number.Decimal
import SqlWire.Session.ConnectParams

/-!
# Connect strings

A connect string is user, slash, password, at sign and address, and the address is a host, or host,
colon and port. The marks may also stand in the password, and a colon in the host: what counts is the
last at sign, the first slash in front of it and the last colon behind it. A string is accepted
exactly when it is of this form, with these parts, and refused as a connect string otherwise
(`parses_connect_strings`).
-/
namespace SqlWire.ConnectParams

open Number (WritesUnsigned)

/-- A list is cut at a separator exactly where the separator stands and not in front of that. -/
theorem splitFirst_eq_some_iff {separator : Char} {chars front back : List Char} :
    splitFirst separator chars = some (front, back) ↔
      chars = front ++ separator :: back ∧ separator ∉ front := by
  induction chars generalizing front with
  | nil => simp [splitFirst]
  | cons c rest ih =>
    by_cases here : c = separator
    · subst here
      simp only [splitFirst, if_true, Option.some.injEq, Prod.mk.injEq]
      constructor
      · rintro ⟨rfl, rfl⟩
        exact ⟨rfl, List.not_mem_nil⟩
      · rintro ⟨same, first⟩
        cases front with
        | nil => exact ⟨rfl, (List.cons.inj same).2⟩
        | cons head tail =>
          have earlier : c = head := (List.cons.inj same).1
          exact absurd (earlier ▸ List.mem_cons_self) first
    · simp only [splitFirst, if_neg here, Option.map_eq_some_iff, Prod.mk.injEq, Prod.exists]
      constructor
      · rintro ⟨middle, _, found, rfl, rfl⟩
        obtain ⟨rfl, first⟩ := ih.mp found
        have other : separator ∉ c :: middle := by
          simp [first, Ne.symm here]
        exact ⟨rfl, other⟩
      · rintro ⟨same, first⟩
        cases front with
        | nil => exact absurd (List.cons.inj same).1 here
        | cons head tail =>
          obtain ⟨rfl, rfl⟩ := List.cons.inj same
          have later : separator ∉ tail := fun member => first (List.mem_cons_of_mem _ member)
          exact ⟨tail, back, ih.mpr ⟨rfl, later⟩, rfl, rfl⟩

/-- A list is not cut exactly when the separator stands nowhere. -/
theorem splitFirst_eq_none_iff {separator : Char} {chars : List Char} :
    splitFirst separator chars = none ↔ separator ∉ chars := by
  constructor
  · intro none member
    obtain ⟨front, back, same, first⟩ := List.eq_append_cons_of_mem member
    rw [splitFirst_eq_some_iff.mpr ⟨same, first⟩] at none
    cases none
  · intro absent
    cases found : splitFirst separator chars with
    | none => rfl
    | some parts =>
      obtain ⟨same, _⟩ := splitFirst_eq_some_iff.mp found
      rw [same] at absent
      exact absurd (List.mem_append_right _ List.mem_cons_self) absent

/-- A list is cut at the last of a separator exactly where it stands and not behind that. -/
theorem splitLast_eq_some_iff {separator : Char} {chars front back : List Char} :
    splitLast separator chars = some (front, back) ↔
      chars = front ++ separator :: back ∧ separator ∉ back := by
  simp only [splitLast, Option.map_eq_some_iff, Prod.mk.injEq, Prod.exists, splitFirst_eq_some_iff]
  constructor
  · rintro ⟨last, first, ⟨same, absent⟩, rfl, rfl⟩
    have forward : chars = (last ++ separator :: first).reverse := by
      rw [← same, List.reverse_reverse]
    refine ⟨?_, by simpa using absent⟩
    simpa using forward
  · rintro ⟨rfl, absent⟩
    refine ⟨back.reverse, front.reverse, ⟨by simp, by simpa using absent⟩, ?_, ?_⟩
    · exact List.reverse_reverse front
    · exact List.reverse_reverse back

/-- A list is not cut exactly when the separator stands nowhere. -/
theorem splitLast_eq_none_iff {separator : Char} {chars : List Char} :
    splitLast separator chars = none ↔ separator ∉ chars := by
  simp [splitLast, splitFirst_eq_none_iff]

/-- Whether an address names a host and a port. -/
inductive Address : List Char → List Char → UInt16 → Prop where
  /-- A host alone stands for the default port. -/
  | plain {host : List Char} : ':' ∉ host → Address host host defaultPort
  /-- Host and port are cut at the last colon. -/
  | ported {host digits : List Char} {port : UInt16} : ':' ∉ digits →
      WritesUnsigned digits port.toNat → Address (host ++ ':' :: digits) host port

/-- The parts of a connect string. -/
structure Parts where
  /-- The name of the user. -/
  user : String
  /-- The password. -/
  password : String
  /-- The host. -/
  host : String
  /-- The port. -/
  port : UInt16

namespace Parts

/-- The parameters with these parts and the default settings. -/
def params (parts : Parts) : ConnectParams :=
  ofAddress parts.host parts.port parts.user parts.password

/-- The connect string of these parts with the port in decimal. -/
def text (parts : Parts) : String :=
  parts.user ++ "/" ++ parts.password ++ "@" ++ parts.host ++ ":" ++
    String.ofList (Number.decimal parts.port.toNat)

/-- Whether a string is the connect string of these parts. -/
structure Spelled (parts : Parts) (text : String) (address : List Char) : Prop where
  /-- The string is cut at an at sign, and what is in front of that at a slash. -/
  text_eq : text.toList = parts.user.toList ++ '/' :: parts.password.toList ++ '@' :: address
  /-- The at sign is the last one. -/
  at_last : '@' ∉ address
  /-- The slash is the first one. -/
  slash_first : '/' ∉ parts.user.toList
  /-- There is a user. -/
  user_ne : parts.user ≠ ""
  /-- There is a host. -/
  host_ne : parts.host ≠ ""
  /-- The address names the host and the port. -/
  address : Address address parts.host.toList parts.port

end Parts

/-- An address that names a host and a port is accepted with these. -/
theorem parseAddress_of_address {address host : List Char} {port : UInt16}
    (named : Address address host port) :
    parseAddress address = .ok (String.ofList host, port) := by
  cases named with
  | plain absent => simp only [parseAddress, splitLast_eq_none_iff.mpr absent]
  | @ported _ digits _ last written =>
    have cut : splitLast ':' (host ++ ':' :: digits) = some (host, digits) :=
      splitLast_eq_some_iff.mpr ⟨rfl, last⟩
    have read : Number.uint16? (String.ofList digits) = some port := by
      apply Number.uint16?_eq_some_iff.mpr
      rwa [String.toList_ofList]
    simp only [parseAddress, cut, read]

/-- An address that is accepted names the host and the port. -/
theorem address_of_parseAddress {address : List Char} {host : String} {port : UInt16}
    (accepted : parseAddress address = .ok (host, port)) : Address address host.toList port := by
  unfold parseAddress at accepted
  cases cut : splitLast ':' address with
  | none =>
    rw [cut] at accepted
    cases accepted
    rw [String.toList_ofList]
    exact .plain (splitLast_eq_none_iff.mp cut)
  | some parts =>
    obtain ⟨front, digits⟩ := parts
    obtain ⟨rfl, last⟩ := splitLast_eq_some_iff.mp cut
    simp only [cut] at accepted
    cases read : Number.uint16? (String.ofList digits) with
    | none => simp [read] at accepted
    | some found =>
      simp only [read, Except.ok.injEq, Prod.mk.injEq] at accepted
      obtain ⟨rfl, rfl⟩ := accepted
      have written := Number.uint16?_eq_some_iff.mp read
      rw [String.toList_ofList] at written ⊢
      exact .ported last written

/-- An address is refused for its port only. -/
theorem exists_of_parseAddress_eq_error {address : List Char} {error : Error}
    (refused : parseAddress address = .error error) :
    ∃ fault, error = .connectString fault := by
  unfold parseAddress at refused
  split at refused
  · cases refused
  · split at refused
    · cases refused
    · cases refused
      exact ⟨_, rfl⟩

variable {text : String}

/-- The connect string of some parts is accepted with them. -/
theorem Parts.Spelled.parse_eq {parts : Parts} {address : List Char}
    (spelled : parts.Spelled text address) : parse text = .ok parts.params := by
  have atSign : splitLast '@' text.toList =
      some (parts.user.toList ++ '/' :: parts.password.toList, address) :=
    splitLast_eq_some_iff.mpr ⟨spelled.text_eq, spelled.at_last⟩
  have slash : splitFirst '/' (parts.user.toList ++ '/' :: parts.password.toList) =
      some (parts.user.toList, parts.password.toList) :=
    splitFirst_eq_some_iff.mpr ⟨rfl, spelled.slash_first⟩
  have named := parseAddress_of_address spelled.address
  rw [String.ofList_toList] at named
  have user : parts.user.toList.isEmpty = false := by simpa using spelled.user_ne
  have host : parts.host.isEmpty = false := by simpa using spelled.host_ne
  simp [parse, atSign, slash, user, named, host, bind, Except.bind, Parts.params]

/-- A string that is accepted is the connect string of the parts with which it is. -/
theorem exists_spelled_of_parse {params : ConnectParams} (accepted : parse text = .ok params) :
    ∃ parts address, Parts.Spelled parts text address ∧ parts.params = params := by
  unfold parse at accepted
  cases atSign : splitLast '@' text.toList with
  | none => simp [atSign] at accepted
  | some cut =>
    obtain ⟨credentials, address⟩ := cut
    cases slash : splitFirst '/' credentials with
    | none => simp [atSign, slash] at accepted
    | some cut =>
      obtain ⟨user, password⟩ := cut
      simp only [atSign, slash] at accepted
      split at accepted
      · cases accepted
      rename_i someUser
      obtain ⟨⟨host, port⟩, named, accepted⟩ := Action.except_bind_eq_ok.mp accepted
      dsimp only at accepted
      split at accepted
      · cases accepted
      rename_i someHost
      obtain ⟨whole, at_last⟩ := splitLast_eq_some_iff.mp atSign
      obtain ⟨rfl, slash_first⟩ := splitFirst_eq_some_iff.mp slash
      have spelled : Parts.Spelled ⟨String.ofList user, String.ofList password, host, port⟩ text
          address :=
        { text_eq := by simpa using whole
          at_last
          slash_first := by simpa using slash_first
          user_ne := by simpa using someUser
          host_ne := by simpa using someHost
          address := address_of_parseAddress named }
      exact ⟨_, address, spelled, Except.ok.inj accepted⟩

/-- A string that is refused is refused as a connect string. -/
theorem exists_of_parse_eq_error {error : Error} (refused : parse text = .error error) :
    ∃ fault, error = .connectString fault := by
  unfold parse at refused
  split at refused
  · cases refused
    exact ⟨_, rfl⟩
  split at refused
  · cases refused
    exact ⟨_, rfl⟩
  split at refused
  · cases refused
    exact ⟨_, rfl⟩
  obtain unnamed | ⟨named, _, refused⟩ := Action.except_bind_eq_error.mp refused
  · exact exists_of_parseAddress_eq_error unnamed
  · dsimp only at refused
    split at refused
    · cases refused
      exact ⟨_, rfl⟩
    · cases refused

/-- A connect string with a port in decimal is that of its parts, if neither a slash in the name of
the user nor an at sign in the host is in the way. -/
theorem Parts.spelled_text {parts : Parts} (user : parts.user ≠ "")
    (slash : '/' ∉ parts.user.toList) (host : parts.host ≠ "") (atSign : '@' ∉ parts.host.toList) :
    parts.Spelled parts.text
      (parts.host.toList ++ ':' :: Number.decimal parts.port.toNat) := by
  have digits := Number.digits_decimal parts.port.toNat
  have absent {c : Char} (other : ¬ Number.IsDigit c) : c ∉ Number.decimal parts.port.toNat :=
    fun member => other (digits.digits c member)
  have written : WritesUnsigned (Number.decimal parts.port.toNat) parts.port.toNat :=
    ⟨_, .inl rfl, digits, Number.number_decimal _⟩
  have behind : '@' ∉ ':' :: Number.decimal parts.port.toNat := by
    simp [absent (by decide : ¬ Number.IsDigit '@')]
  exact
    { text_eq := by simp [Parts.text]
      at_last := by simp [atSign, behind]
      slash_first := slash
      user_ne := user
      host_ne := host
      address := .ported (absent (by decide)) written }

/-- Every string is accepted exactly when it is a connect string, with the parts of that and the
default settings, and else refused as a connect string. So the connect string of a user without
slashes and a host without at signs, both not empty, is accepted with these, the password and the
port, whatever stands in the password and though there are colons in the host. -/
theorem parses_connect_strings :
    (∀ text params, parse text = .ok params ↔
      ∃ parts address, Parts.Spelled parts text address ∧ parts.params = params) ∧
    (∀ text, (¬ ∃ parts address, Parts.Spelled parts text address) →
      ∃ fault, parse text = .error (.connectString fault)) ∧
    ∀ parts : Parts, parts.user ≠ "" → '/' ∉ parts.user.toList → parts.host ≠ "" →
      '@' ∉ parts.host.toList → parse parts.text = .ok parts.params := by
  refine ⟨?_, ?_, ?_⟩
  · intro text params
    constructor
    · exact exists_spelled_of_parse
    · rintro ⟨parts, address, spelled, rfl⟩
      exact spelled.parse_eq
  · intro text other
    cases result : parse text with
    | ok params =>
      obtain ⟨parts, address, spelled, _⟩ := exists_spelled_of_parse result
      exact absurd ⟨parts, address, spelled⟩ other
    | error error =>
      obtain ⟨fault, rfl⟩ := exists_of_parse_eq_error result
      exact ⟨fault, rfl⟩
  · intro parts user slash host atSign
    exact (Parts.spelled_text user slash host atSign).parse_eq

/-- All three marks stand in the password, an at sign in the name of the user and colons in the
host. -/
theorem parses_connect_strings_marked :
    parse "us@er/p@ss:w/rd@::1:1888" = .ok (.ofAddress "::1" 1888 "us@er" "p@ss:w/rd") := by
  have text : (Parts.text ⟨"us@er", "p@ss:w/rd", "::1", 1888⟩) = "us@er/p@ss:w/rd@::1:1888" := by
    decide +kernel
  have parsed := parses_connect_strings.2.2 ⟨"us@er", "p@ss:w/rd", "::1", 1888⟩ (by decide)
    (by decide) (by decide) (by decide)
  rwa [text] at parsed

end SqlWire.ConnectParams
