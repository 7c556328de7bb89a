import ProxyTunnels.Http3.Transmit.Encode
import ProxyTunnels.Http3.Transmit.Headers

/-! A request on its way to the peer: header, field section, HEADERS frame.

`send_request` refuses a header the peer would find too large by the peer's own count, and
what it sends instead is read back as the same header. An ordinary CONNECT is its method
and its authority; every other request also has a scheme and a path.
-/

set_option autoImplicit false

namespace ProxyTunnels.Http3
open Qpack

variable {http : HttpTypes}

/-- The errors of `send_request` that come before anything is written. -/
inductive RequestError where
  | remoteClosing
  /-- `H3_INTERNAL_ERROR`, "Failed to build request headers" -/
  | headers (error : HeaderError)
  | headerTooBig (actualSize maxSize : Nat)
  deriving DecidableEq, Repr

/-- `send_request`, from the look at the peer's state to the frame it writes; a panic of the
encoder is `none`. -/
def sendRequest (closing : Bool) (peer : Nat) (header : Except HeaderError (Header http)) :
    Option (Except RequestError SendFrame) :=
  if closing then some (.error .remoteClosing)
  else
    match header with
    | .error error => some (.error (.headers error))
    | .ok header =>
      match encodeStateless header.toFields with
      | none => none
      | some (block, memSize) =>
        if peer < memSize then some (.error (.headerTooBig memSize peer)) else some (.ok (.headers block))

section Requests
variable {names : Constants http} {method : http.method.Value} {uri : UriParts http} {fields : http.headerMap.Map}
  {extension : Option Protocol} {header : Header http}

theorem Header.request_ok (made : Header.request names method uri fields extension = .ok header) :
    header = ⟨.request names method uri extension, fields⟩ := by
  unfold Header.request at made
  split at made
  · cases made
  · split at made
    · cases made
    · cases made
      rfl
  · cases made
    rfl

/-- An ordinary CONNECT: no scheme and no path, whatever its URI has. -/
theorem connect_toFields (made : Header.request names names.connect uri fields none = .ok header) :
    header.toFields = ⟨byteString ":method", byteString "CONNECT"⟩ ::
      ((uri.authority.map fun value => ⟨byteString ":authority", value.1⟩).toList ++
        (http.headerMap.pairs fields).map fun pair => ⟨pair.1.1, pair.2.1⟩) := by
  have parts : (Pseudo.request names names.connect uri none).parts =
      .method names.connect :: (uri.authority.map .authority).toList := by
    simp only [Pseudo.request, if_true, decide_true, Option.isNone_none, Bool.and_self, Pseudo.parts, Option.map_none,
      Option.map_some, Option.toList_none, Option.toList_some, List.append_nil, List.singleton_append]
  cases Header.request_ok made
  rw [Header.toFields, Header.parts, parts, List.map_append, List.map_map, List.map_cons, Field.toHeaderField,
    names.connectText]
  cases uri.authority <;> rfl

theorem Pseudo.request_other (other : ¬ (method = names.connect ∧ extension = none)) :
    (Pseudo.request names method uri extension).scheme = some (uri.scheme.getD names.https) ∧
      (Pseudo.request names method uri extension).path = some (uri.path.getD names.root) := by
  have unplain : (decide (method = names.connect) &&
      (if method = names.connect then extension else none).isNone) = false := by
    by_cases connect : method = names.connect
    · have extended : extension ≠ none := fun none => other ⟨connect, none⟩
      simpa [connect, Option.isSome_iff_ne_none] using extended
    · simp [connect]
  have kept : ∀ path, (http.pathPart path).isEmpty = false :=
    fun path => List.isEmpty_eq_false_iff.mpr (http.rooted path)
  simp only [Pseudo.request, unplain, Bool.false_eq_true, if_false, true_and]
  cases uri.path with
  | none => rfl
  | some path => simp [kept]

def Header.Delivered (header : Header http) (peer : Nat) : Prop :=
  ∃ block bytes, sendRequest false peer (.ok header) = some (.ok (.headers block)) ∧
    (SendFrame.headers block).wire = some bytes ∧
    (∀ rest, Frame.decode (bytes ++ rest) = .frame (.headers block) rest) ∧
    decodeStateless block peer = some (.ok ⟨header.toFields, totalSize header.toFields⟩) ∧
    ∃ copy, Header.tryFrom header.toFields = some (.ok copy) ∧ copy.Same header

/-- A request is refused exactly when it is larger than the peer allows, and otherwise the
peer reads it. An ordinary CONNECT is its method, its authority and its regular fields; any
other request has a scheme and a path. -/
theorem sendRequest_delivers (made : Header.request names method uri fields extension = .ok header)
    (few : header.toFields.length ≤ mostFields) (small : totalSize header.toFields < 134217728) (peer : Nat) :
    (if peer < totalSize header.toFields then
        sendRequest false peer (.ok header) = some (.error (.headerTooBig (totalSize header.toFields) peer))
      else header.Delivered peer) ∧
      if method = names.connect ∧ extension = none then header.toFields =
        ⟨byteString ":method", byteString "CONNECT"⟩ ::
          ((uri.authority.map fun value => ⟨byteString ":authority", value.1⟩).toList ++
            (http.headerMap.pairs fields).map fun pair => ⟨pair.1.1, pair.2.1⟩)
      else header.pseudo.scheme = some (uri.scheme.getD names.https) ∧
        header.pseudo.path = some (uri.path.getD names.root) := by
  have short := short_of_totalSize small
  obtain ⟨block, written, read⟩ := decodeStateless_encodeStateless short
  have length := encodeStateless_length short written
  have lines := length_le_totalSize header.toFields
  have fits : (SendFrame.headers block).Sendable := by
    unfold SendFrame.Sendable
    omega
  have counted : header.pseudo.len = header.pseudo.parts.length := by
    rw [Header.request_ok made]
    exact Pseudo.request_counted names method uri extension
  constructor
  · split
    case isTrue large => simp only [sendRequest, Bool.false_eq_true, if_false, written, large, if_true]
    case isFalse within =>
      obtain ⟨bytes, wire, -⟩ := SendFrame.decode_wire fits []
      refine ⟨block, bytes, ?_, wire, ?_, ?_, Header.tryFrom_toFields counted few⟩
      · simp only [sendRequest, Bool.false_eq_true, if_false, written, within]
      · intro rest
        obtain ⟨same, wireSame, decoded⟩ := SendFrame.decode_wire fits rest
        rw [wire, Option.some.injEq] at wireSame
        rw [wireSame, decoded]
        rfl
      · rw [read, if_pos (Nat.le_of_not_lt within)]
  · split
    case isTrue ordinary =>
      obtain ⟨rfl, rfl⟩ := ordinary
      exact connect_toFields made
    case isFalse other =>
      rw [Header.request_ok made]
      exact Pseudo.request_other other

def MapType.listed (Name Value : Type) [DecidableEq Name] : MapType Name Value where
  Map := List (Name × Value)
  withCapacity count := if count ≤ 24576 then some [] else none
  append map name value := if map.length < 24576 then some (map ++ [(name, value)]) else none
  len map := map.length
  get map name := ((map.filter fun pair => pair.1 = name).map Prod.snd).head?
  getAll map name := (map.filter fun pair => pair.1 = name).map Prod.snd
  intoIter map := map.map fun pair => (some pair.1, pair.2)
  capacity := by
    intro count few
    rw [mostFields] at few
    exact ⟨[], if_pos (by omega), rfl, fun _ => rfl⟩
  room := by
    intro map name value few
    rw [mostFields] at few
    refine ⟨_, if_pos (by omega), List.length_append, ?_⟩
    intro other
    by_cases same : name = other <;> simp [same]
  iterates := by
    have named : ∀ (last : Option Name) (map : List (Name × Value)),
        carryNames last (map.map fun pair => (some pair.1, pair.2)) = map := by
      intro last map
      induction map generalizing last with
      | nil => cases last <;> rfl
      | cons pair map ih => cases last <;> exact congrArg (pair :: ·) (ih _)
    intro map name
    rw [named]
  first := fun _ _ => rfl

def HttpTypes.any : HttpTypes :=
  let text : TextType := ⟨some, fun _ => rfl⟩
  let name : TextType :=
    { parse := fun bytes => if bytes.head?.any (· ≠ 58) then some bytes else none
      stable := by
        intro bytes value parsed
        split at parsed <;> cases parsed
        rename_i plain
        exact if_pos plain }
  { method := text, scheme := text, authority := text, path := text, status := text, headerName := name,
    headerValue := text, headerMap := .listed _ _,
    pathPart := fun path => if path.1.isEmpty then [47] else path.1
    isInformational := fun status => status.1.head? = some 49
    isSuccess := fun status => status.1.head? = some 50
    plain := by
      rintro ⟨bytes, parsed⟩
      cases bytes with
      | nil => simp [name] at parsed
      | cons first rest =>
        refine ⟨first, rest, rfl, ?_⟩
        intro colon
        simp [name, colon] at parsed
    rooted := by
      intro path
      split
      · exact List.cons_ne_nil _ _
      · rename_i some
        exact fun none => some (List.isEmpty_iff.mpr none)
    informational := fun _ => decide_eq_true_iff
    success := fun _ => decide_eq_true_iff }

def Constants.any : Constants .any where
  connect := ⟨byteString "CONNECT", rfl⟩
  options := ⟨byteString "OPTIONS", rfl⟩
  https := ⟨byteString "https", rfl⟩
  root := ⟨byteString "/", rfl⟩
  host := ⟨byteString "host", by decide +kernel⟩
  connectText := rfl
  optionsText := rfl
  httpsText := rfl
  rootText := rfl
  hostText := rfl

theorem sendRequest_delivers_connect :
    ∃ header : Header .any, Header.request .any Constants.any.connect
        ⟨none, some ⟨byteString "example.net:443", rfl⟩, none⟩ [] none = .ok header ∧ header.Delivered 16384 ∧
      header.toFields = [⟨byteString ":method", byteString "CONNECT"⟩,
        ⟨byteString ":authority", byteString "example.net:443"⟩] := by
  have made : Header.request Constants.any Constants.any.connect
      ⟨none, some ⟨byteString "example.net:443", rfl⟩, none⟩ [] none = .ok _ := rfl
  have listed : _ = ([⟨byteString ":method", byteString "CONNECT"⟩,
      ⟨byteString ":authority", byteString "example.net:443"⟩] : List HeaderField) := connect_toFields made
  have size := congrArg totalSize listed
  rw [show totalSize [⟨byteString ":method", byteString "CONNECT"⟩,
    ⟨byteString ":authority", byteString "example.net:443"⟩] = 103 by decide +kernel] at size
  obtain ⟨sent, shape⟩ := sendRequest_delivers made (by rw [listed]; decide) (by rw [size]; decide) 16384
  rw [if_neg (by rw [size]; decide)] at sent
  rw [if_pos ⟨rfl, rfl⟩] at shape
  exact ⟨_, made, sent, shape⟩

end Requests

end ProxyTunnels.Http3
