import ProxyTunnels.Http3.Qpack.Block

/-! Header sections as lists of fields, and back.

A header has the pseudo-header fields of a request or a response and a map of regular
fields. It is written pseudo-header fields first; it is read in any order, and of a
pseudo-header field that comes twice the last one counts. The types of the http crate are
known by their parsers, its header map by its operations.
-/

set_option autoImplicit false

namespace ProxyTunnels.Http3
open Qpack

/-- A type of the http crate by its parser, which gives the text of the value it makes. The
text of a value is parsed to that value. -/
structure TextType where
  parse : List UInt8 → Option (List UInt8)
  stable : ∀ {bytes value : List UInt8}, parse bytes = some value → parse value = some value

def TextType.Value (type : TextType) : Type := { text : List UInt8 // type.parse text = some text }

instance (type : TextType) : DecidableEq type.Value := inferInstanceAs (DecidableEq { _text : List UInt8 // _ })

def TextType.read (type : TextType) (bytes : List UInt8) : Option type.Value :=
  match parsed : type.parse bytes with
  | none => none
  | some text => some ⟨text, type.stable parsed⟩

/-- The most fields a `HeaderMap` is sure to take: it has at most 32768 places, and if its
names collide it may give up when a fifth of them are taken. -/
def mostFields : Nat := 6554

/-- `HeaderIter`, on the regular fields: a value that comes without a name has the last one. -/
def carryNames {Name Value : Type} : Option Name → List (Option Name × Value) → List (Name × Value)
  | _, [] => []
  | none, (none, _) :: rest => carryNames none rest
  | some last, (none, value) :: rest => (last, value) :: carryNames (some last) rest
  | _, (some name, value) :: rest => (name, value) :: carryNames (some name) rest

/-- `HeaderMap`, by its operations and what they do to the values of each name. `none` is a
panic: of a map made for too many fields, or grown to too many. -/
structure MapType (Name Value : Type) [DecidableEq Name] where
  Map : Type
  withCapacity : Nat → Option Map
  append : Map → Name → Value → Option Map
  len : Map → Nat
  get : Map → Name → Option Value
  getAll : Map → Name → List Value
  intoIter : Map → List (Option Name × Value)
  capacity : ∀ count ≤ mostFields, ∃ map, withCapacity count = some map ∧ len map = 0 ∧ ∀ name, getAll map name = []
  room : ∀ map name value, len map < mostFields → ∃ next, append map name value = some next ∧
    len next = len map + 1 ∧ ∀ other, getAll next other = getAll map other ++ if name = other then [value] else []
  iterates : ∀ map name,
    ((carryNames none (intoIter map)).filter fun pair => pair.1 = name).map Prod.snd = getAll map name
  first : ∀ map name, get map name = (getAll map name).head?

/-- The pairs of a map, as `HeaderIter` gives them. -/
def MapType.pairs {Name Value : Type} [DecidableEq Name] (type : MapType Name Value) (map : type.Map) :
    List (Name × Value) := carryNames none (type.intoIter map)

/-- The types a header is made of. A field name is not empty and does not start with a
colon, a path is never empty, and the first digit of a status is its class. -/
structure HttpTypes where
  method : TextType
  scheme : TextType
  authority : TextType
  path : TextType
  status : TextType
  headerName : TextType
  headerValue : TextType
  headerMap : MapType headerName.Value headerValue.Value
  pathPart : path.Value → List UInt8
  isInformational : status.Value → Bool
  isSuccess : status.Value → Bool
  plain : ∀ name : headerName.Value, ∃ first rest, name.1 = first :: rest ∧ first ≠ 58
  rooted : ∀ value, pathPart value ≠ []
  informational : ∀ value, isInformational value = true ↔ value.1.head? = some 49
  success : ∀ value, isSuccess value = true ↔ value.1.head? = some 50

inductive Protocol where
  | webTransport
  | connectUdp
  deriving DecidableEq, Repr

def Protocol.asStr : Protocol → List UInt8
  | .webTransport => byteString "webtransport"
  | .connectUdp => byteString "connect-udp"

/-- `FromStr for Protocol`. -/
def Protocol.fromStr (text : List UInt8) : Option Protocol :=
  if text = byteString "webtransport" then some .webTransport
  else if text = byteString "connect-udp" then some .connectUdp
  else none

/-- `HeaderError`, with the bytes its text is made of. -/
inductive HeaderError where
  | nameEmpty
  | invalidName (name : List UInt8)
  | invalidValue (name value : List UInt8)
  | missingMethod
  | missingStatus
  | missingAuthority
  | contradictedAuthority
  deriving DecidableEq, Repr

variable (http : HttpTypes)

structure Pseudo where
  method : Option http.method.Value
  scheme : Option http.scheme.Value
  authority : Option http.authority.Value
  path : Option http.path.Value
  status : Option http.status.Value
  protocol : Option Protocol
  len : Nat
  deriving DecidableEq

structure Header where
  pseudo : Pseudo http
  fields : http.headerMap.Map

inductive Field where
  | method (value : http.method.Value)
  | scheme (value : http.scheme.Value)
  | authority (value : http.authority.Value)
  | path (value : http.path.Value)
  | status (value : http.status.Value)
  | protocol (value : Protocol)
  | header (name : http.headerName.Value) (value : http.headerValue.Value)

def orInvalid {α : Type} (name value : List UInt8) (found : Option α) : Except HeaderError α :=
  match found with
  | some found => .ok found
  | none => .error (.invalidValue name value)

def Field.parse (name value : List UInt8) : Except HeaderError (Field http) :=
  match name with
  | [] => .error .nameEmpty
  | first :: _ =>
    if first ≠ 58 then
      match http.headerName.read name with
      | none => .error (.invalidName name)
      | some known => (orInvalid name value (http.headerValue.read value)).map (.header known)
    else if name = byteString ":scheme" then (orInvalid name value (http.scheme.read value)).map .scheme
    else if name = byteString ":authority" then (orInvalid name value (http.authority.read value)).map .authority
    else if name = byteString ":path" then (orInvalid name value (http.path.read value)).map .path
    else if name = byteString ":method" then (orInvalid name value (http.method.read value)).map .method
    else if name = byteString ":status" then (orInvalid name value (http.status.read value)).map .status
    else if name = byteString ":protocol" then (orInvalid name value (Protocol.fromStr value)).map .protocol
    else .error (.invalidName name)

variable {http}

/-- `Pseudo::default`. -/
def Pseudo.empty : Pseudo http := ⟨none, none, none, none, none, none, 0⟩

/-- One round of `TryFrom<Vec<HeaderField>>`, after the field was parsed. -/
def Header.add (header : Header http) : Field http → Option (Header http)
  | .method value =>
      some { header with pseudo := { header.pseudo with method := some value, len := header.pseudo.len + 1 } }
  | .scheme value =>
      some { header with pseudo := { header.pseudo with scheme := some value, len := header.pseudo.len + 1 } }
  | .authority value =>
      some { header with pseudo := { header.pseudo with authority := some value, len := header.pseudo.len + 1 } }
  | .path value =>
      some { header with pseudo := { header.pseudo with path := some value, len := header.pseudo.len + 1 } }
  | .status value =>
      some { header with pseudo := { header.pseudo with status := some value, len := header.pseudo.len + 1 } }
  | .protocol value =>
      some { header with pseudo := { header.pseudo with protocol := some value, len := header.pseudo.len + 1 } }
  | .header name value => (http.headerMap.append header.fields name value).map fun fields => { header with fields }

def Header.readAll (header : Header http) : List HeaderField → Option (Except HeaderError (Header http))
  | [] => some (.ok header)
  | field :: fields =>
    match Field.parse http field.name field.value with
    | .error error => some (.error error)
    | .ok parsed => (header.add parsed).bind fun next => next.readAll fields

/-- `TryFrom<Vec<HeaderField>> for Header`; a panic of the map is `none`. -/
def Header.tryFrom (fields : List HeaderField) : Option (Except HeaderError (Header http)) :=
  (http.headerMap.withCapacity fields.length).bind fun map => Header.readAll ⟨.empty, map⟩ fields

def Field.toHeaderField : Field http → HeaderField
  | .method value => ⟨byteString ":method", value.1⟩
  | .scheme value => ⟨byteString ":scheme", value.1⟩
  | .authority value => ⟨byteString ":authority", value.1⟩
  | .path value => ⟨byteString ":path", value.1⟩
  | .status value => ⟨byteString ":status", value.1⟩
  | .protocol value => ⟨byteString ":protocol", value.asStr⟩
  | .header name value => ⟨name.1, value.1⟩

/-- The pseudo-header fields, in the order `HeaderIter` gives them. -/
def Pseudo.parts (pseudo : Pseudo http) : List (Field http) :=
  (pseudo.method.map .method).toList ++ (pseudo.scheme.map .scheme).toList ++
    (pseudo.authority.map .authority).toList ++ (pseudo.path.map .path).toList ++
    (pseudo.status.map .status).toList ++ (pseudo.protocol.map .protocol).toList

def Header.parts (header : Header http) : List (Field http) :=
  header.pseudo.parts ++ (http.headerMap.pairs header.fields).map fun pair => .header pair.1 pair.2

/-- `HeaderIter`. -/
def Header.toFields (header : Header http) : List HeaderField := header.parts.map Field.toHeaderField

/-- `Parts` of a `Uri`. -/
structure UriParts (http : HttpTypes) where
  scheme : Option http.scheme.Value
  authority : Option http.authority.Value
  path : Option http.path.Value

structure Constants (http : HttpTypes) where
  connect : http.method.Value
  options : http.method.Value
  https : http.scheme.Value
  root : http.path.Value
  host : http.headerName.Value
  connectText : connect.1 = byteString "CONNECT"
  optionsText : options.1 = byteString "OPTIONS"
  httpsText : https.1 = byteString "https"
  rootText : root.1 = byteString "/"
  hostText : host.1 = byteString "host"

def Pseudo.request (names : Constants http) (method : http.method.Value) (uri : UriParts http)
    (extension : Option Protocol) : Pseudo http :=
  let path :=
    match uri.path with
    | none => names.root
    | some path => if (http.pathPart path).isEmpty ∧ method ≠ names.options then names.root else path
  let protocol := if method = names.connect then extension else none
  let plainConnect := decide (method = names.connect) && protocol.isNone
  let scheme := if plainConnect then none else some (uri.scheme.getD names.https)
  let path := if plainConnect then none else some path
  { method := some method, scheme, authority := uri.authority, path, status := none, protocol,
    len := 1 + scheme.isSome.toNat + path.isSome.toNat + uri.authority.isSome.toNat + protocol.isSome.toNat }

def Header.request (names : Constants http) (method : http.method.Value) (uri : UriParts http)
    (fields : http.headerMap.Map) (extension : Option Protocol) : Except HeaderError (Header http) :=
  match uri.authority, http.headerMap.get fields names.host with
  | none, none => .error .missingAuthority
  | some authority, some host =>
    if authority.1 ≠ host.1 then .error .contradictedAuthority
    else .ok ⟨.request names method uri extension, fields⟩
  | _, _ => .ok ⟨.request names method uri extension, fields⟩

def Header.intoResponseParts (header : Header http) : Except HeaderError (http.status.Value × http.headerMap.Map) :=
  match header.pseudo.status with
  | none => .error .missingStatus
  | some status => .ok (status, header.fields)

/-- The same pseudo-header fields, and the same values for every name in the same order. -/
structure Header.Same (header other : Header http) : Prop where
  pseudo : header.pseudo = other.pseudo
  fields : ∀ name, http.headerMap.getAll header.fields name = http.headerMap.getAll other.fields name

section Fields

theorem TextType.read_value (type : TextType) (value : type.Value) : type.read value.1 = some value := by
  unfold TextType.read
  split
  case h_1 refused =>
    rw [value.2] at refused
    cases refused
  case h_2 text parsed =>
    rw [value.2, Option.some.injEq] at parsed
    exact congrArg some (Subtype.ext parsed.symm)

theorem Protocol.fromStr_asStr (protocol : Protocol) : Protocol.fromStr protocol.asStr = some protocol := by
  cases protocol <;> decide +kernel

theorem pseudoNames : byteString ":method" = [58, 109, 101, 116, 104, 111, 100] ∧
    byteString ":scheme" = [58, 115, 99, 104, 101, 109, 101] ∧
    byteString ":authority" = [58, 97, 117, 116, 104, 111, 114, 105, 116, 121] ∧
    byteString ":path" = [58, 112, 97, 116, 104] ∧ byteString ":status" = [58, 115, 116, 97, 116, 117, 115] ∧
    byteString ":protocol" = [58, 112, 114, 111, 116, 111, 99, 111, 108] := by
  decide +kernel

theorem Field.parse_toHeaderField (field : Field http) :
    Field.parse http field.toHeaderField.name field.toHeaderField.value = .ok field := by
  obtain ⟨method, scheme, authority, path, status, protocol⟩ := pseudoNames
  cases field with
  | method value =>
    simp only [toHeaderField, parse, method, scheme, authority, path, http.method.read_value, orInvalid]
    rfl
  | scheme value =>
    simp only [toHeaderField, parse, scheme, http.scheme.read_value, orInvalid]
    rfl
  | authority value =>
    simp only [toHeaderField, parse, scheme, authority, http.authority.read_value, orInvalid]
    rfl
  | path value =>
    simp only [toHeaderField, parse, scheme, authority, path, http.path.read_value, orInvalid]
    rfl
  | status value =>
    simp only [toHeaderField, parse, method, scheme, authority, path, status, http.status.read_value, orInvalid]
    rfl
  | protocol value =>
    simp only [toHeaderField, parse, method, scheme, authority, path, status, protocol, value.fromStr_asStr, orInvalid]
    rfl
  | header name value =>
    obtain ⟨first, rest, shape, plain⟩ := http.plain name
    have known := http.headerName.read_value name
    simp only [toHeaderField, shape] at known ⊢
    simp only [parse, ne_eq, plain, not_false_eq_true, if_true, known, http.headerValue.read_value, orInvalid]
    rfl

theorem Header.readAll_parts (header : Header http) (parts : List (Field http)) :
    header.readAll (parts.map Field.toHeaderField) = (parts.foldlM Header.add header).map .ok := by
  induction parts generalizing header with
  | nil => rfl
  | cons part parts ih =>
    rw [List.map_cons, readAll, part.parse_toHeaderField, List.foldlM_cons]
    dsimp only
    cases header.add part with
    | none => rfl
    | some next => exact ih next

theorem Pseudo.foldlM_parts (pseudo : Pseudo http) (fields : http.headerMap.Map) :
    pseudo.parts.foldlM Header.add ⟨.empty, fields⟩ = some ⟨{ pseudo with len := pseudo.parts.length }, fields⟩ := by
  obtain ⟨method, scheme, authority, path, status, protocol, len⟩ := pseudo
  cases method <;> cases scheme <;> cases authority <;> cases path <;> cases status <;> cases protocol <;> rfl

theorem Header.foldlM_fields (pseudo : Pseudo http) {fields : http.headerMap.Map}
    {pairs : List (http.headerName.Value × http.headerValue.Value)}
    (few : http.headerMap.len fields + pairs.length ≤ mostFields) :
    ∃ all, (pairs.map fun pair => Field.header pair.1 pair.2).foldlM Header.add ⟨pseudo, fields⟩ =
        some ⟨pseudo, all⟩ ∧
      ∀ name, http.headerMap.getAll all name =
        http.headerMap.getAll fields name ++ (pairs.filter fun pair => pair.1 = name).map Prod.snd := by
  induction pairs generalizing fields with
  | nil => exact ⟨fields, rfl, fun name => (List.append_nil _).symm⟩
  | cons pair pairs ih =>
    obtain ⟨name, value⟩ := pair
    rw [List.length_cons] at few
    obtain ⟨next, appended, longer, values⟩ := http.headerMap.room fields name value (by omega)
    obtain ⟨all, folded, found⟩ := @ih next (by omega)
    refine ⟨all, ?_, ?_⟩
    · rw [List.map_cons, List.foldlM_cons, Header.add, appended]
      exact folded
    · intro other
      rw [found, values, List.append_assoc, List.filter_cons]
      by_cases same : name = other
      · simp [same]
      · simp [same]

/-- A header that counts its pseudo-header fields right, and has not too many fields, is
read from them. -/
theorem Header.tryFrom_toFields {header : Header http} (counted : header.pseudo.len = header.pseudo.parts.length)
    (few : header.toFields.length ≤ mostFields) :
    ∃ copy, Header.tryFrom header.toFields = some (.ok copy) ∧ copy.Same header := by
  obtain ⟨map, made, fresh, none⟩ := http.headerMap.capacity _ few
  have regular : http.headerMap.len map + (http.headerMap.pairs header.fields).length ≤ mostFields := by
    rw [toFields, List.length_map, parts, List.length_append, List.length_map] at few
    omega
  obtain ⟨all, folded, found⟩ := foldlM_fields { header.pseudo with len := header.pseudo.parts.length } regular
  refine ⟨⟨header.pseudo, all⟩, ?_, rfl, ?_⟩
  · rw [tryFrom, made, Option.bind_some, toFields, readAll_parts, parts, List.foldlM_append, Pseudo.foldlM_parts]
    exact (congrArg (Option.map Except.ok) folded).trans (by rw [← counted]; rfl)
  · intro name
    rw [found, none, List.nil_append]
    exact http.headerMap.iterates header.fields name

theorem Pseudo.length_parts (pseudo : Pseudo http) :
    pseudo.parts.length = pseudo.method.isSome.toNat + pseudo.scheme.isSome.toNat + pseudo.authority.isSome.toNat +
      pseudo.path.isSome.toNat + pseudo.status.isSome.toNat + pseudo.protocol.isSome.toNat := by
  have one : ∀ {α : Type} (part : α → Field http) (value : Option α),
      (value.map part).toList.length = value.isSome.toNat := by
    intro α part value
    cases value <;> rfl
  simp only [parts, List.length_append, one]

theorem Pseudo.request_counted (names : Constants http) (method : http.method.Value) (uri : UriParts http)
    (extension : Option Protocol) :
    (Pseudo.request names method uri extension).len = (Pseudo.request names method uri extension).parts.length := by
  rw [Pseudo.length_parts]
  simp only [request, Option.isSome_some, Option.isSome_none, Bool.toNat_true, Bool.toNat_false]
  omega

end Fields

end ProxyTunnels.Http3
