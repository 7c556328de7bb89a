import ProxyTunnels.Socks5.Grammar

/-! What the front itself says to its peer, and when it stops listening.

Over a wire whose writes succeed, each stage of the negotiation ends in one of three
ways: it answered and goes on, it gave up without a word, or it wrote one refusal and
is done. The transcript of a whole connection is put together from these, with the
reply to the dial at its end. A negotiation that is abandoned for lack of time has
said what it would have said to a peer that stopped sending.
-/

set_option autoImplicit false

namespace ProxyTunnels.Socks5
open Machine

/-- The ten bytes `reply` writes. -/
def replyBytes (code : UInt8) : List UInt8 := [socks5Version, code, 0x00, atypIpv4, 0, 0, 0, 0, 0, 0]

inductive Transcript : List (List UInt8) → Prop where
  | silent : Transcript []
  | selected (method : UInt8) : method = 2 ∨ method = 0xff → Transcript [[5, method]]
  | authenticated (status : UInt8) : Transcript [[5, 2], [1, status]]
  | replied (code : UInt8) : Transcript [[5, 2], [1, 0], [5, code, 0, 1, 0, 0, 0, 0, 0, 0]]

inductive Refusal : List UInt8 → Prop where
  | noMethod : Refusal [5, 0xff]
  | badLogin (status : UInt8) : status ≠ 0 → Refusal [1, status]
  | replied (code : UInt8) : code ≠ 0 → Refusal [5, code, 0, 1, 0, 0, 0, 0, 0, 0]

/-- The wire a timed-out negotiation leaves: it was waiting for bytes that had not
arrived, and those still to come stay unread. -/
def Front.Abandons (front : Front) (wire abandoned : Wire) : Prop :=
  ∃ arrived pending starved, wire.unread = arrived ++ pending ∧
    negotiate front.credentials (wire.rest arrived) = (.error (.io .unexpectedEof), starved) ∧
    abandoned = starved.rest pending

section Stages
variable {wire : Wire}

theorem reply_eq (code : UInt8) (reliable : wire.Reliable) :
    reply code wire = (.ok (), wire.wrote (replyBytes code)) :=
  if_pos (reliable _)

theorem ignore_reply_eq (code : UInt8) (reliable : wire.Reliable) :
    Talk.ignore (reply code) wire = (.ok (), wire.wrote (replyBytes code)) := by
  unfold Talk.ignore
  rw [reply_eq code reliable]

theorem negotiateMethod_answers :
    Talk.Answers (.io .unexpectedEof) [[5, 2]] (· = [5, 0xff]) negotiateMethod := by
  have declines : ∀ reason, Talk.Answers (Failure.io .unexpectedEof) [[5, 2]] (· = [5, 0xff])
      (writeAll [socks5Version, methodNoneAcceptable] >>= fun _ => refuse reason) := fun reason =>
    Talk.refusing_answers (fun wire reliable => if_pos (reliable _)) nofun rfl
  refine Talk.Answers.read fun greeting => ?_
  refine Talk.Answers.require (refuse_refuses _) (Talk.fail_answers _) ?_
  refine Talk.Answers.require (refusal_refuses _ _) (declines _) ?_
  refine Talk.Answers.read fun methods => ?_
  refine Talk.Answers.require (refusal_refuses _ _) (declines _) ?_
  exact Talk.writeAll_answers _

theorem authenticate_answers (credentials : Credentials) :
    Talk.Answers (.io .unexpectedEof) [[1, 0]] (· = [1, 1]) (authenticate credentials) := by
  have declines : ∀ reason, Talk.Answers (Failure.io .unexpectedEof) [[1, 0]] (· = [1, 1])
      (writeAll [1, 1] >>= fun _ => refuse reason) := fun reason =>
    Talk.refusing_answers (fun wire reliable => if_pos (reliable _)) nofun rfl
  refine Talk.Answers.read fun auth => ?_
  refine Talk.Answers.require (refusal_refuses _ _) (declines _) ?_
  refine Talk.Answers.read fun username => ?_
  refine Talk.Answers.read fun passwordLen => ?_
  refine Talk.Answers.read fun password => ?_
  refine Talk.Answers.require (refusal_refuses _ _) (declines _) ?_
  exact Talk.writeAll_answers _

theorem replied_answers {α : Type} {answer : List (List UInt8)} {code : UInt8} (failing : code ≠ 0)
    (reason : String) :
    Talk.Answers (Failure.io .unexpectedEof) answer (fun message => ∃ code, code ≠ 0 ∧ message = replyBytes code)
      (Talk.ignore (reply code) >>= fun _ => (Talk.fail (.protocol reason) : Exchange α)) :=
  Talk.refusing_answers (fun _ reliable => ignore_reply_eq code reliable) nofun ⟨code, failing, rfl⟩

theorem readHost_answers (atyp : UInt8) :
    Talk.Answers (.io .unexpectedEof) [] (fun message => ∃ code, code ≠ 0 ∧ message = replyBytes code)
      (readHost atyp) := by
  unfold readHost
  split
  · exact Talk.Answers.read fun octets => Talk.pure_answers _
  split
  · exact Talk.Answers.read fun octets => Talk.pure_answers _
  split
  · refine Talk.Answers.read fun length => ?_
    refine Talk.Answers.require (replied_refuses _ _) (replied_answers (by decide) _) ?_
    refine Talk.Answers.read fun name => ?_
    unfold decodeName
    split
    · exact Talk.pure_answers _
    · exact replied_answers (by decide) _
  · exact replied_answers (by decide) _

theorem readRequest_answers :
    Talk.Answers (.io .unexpectedEof) [] (fun message => ∃ code, code ≠ 0 ∧ message = replyBytes code)
      readRequest := by
  refine Talk.Answers.read fun request => ?_
  refine Talk.Answers.require (refuse_refuses _) (Talk.fail_answers _) ?_
  refine Talk.Answers.require (refuse_refuses _) (Talk.fail_answers _) ?_
  refine Talk.Answers.require (replied_refuses _ _) (replied_answers (by decide) _) ?_
  refine Talk.Answers.bind (readHost_answers _) fun host => ?_
  exact Talk.Answers.read fun port => Talk.pure_answers _

end Stages

section Locality

theorem negotiateMethod_local : Talk.Local (.io .unexpectedEof) negotiateMethod := by
  have declines : ∀ reason, Talk.Local (Failure.io .unexpectedEof)
      (writeAll [socks5Version, methodNoneAcceptable] >>= fun _ => refuse reason) := fun reason =>
    (Talk.writeAll_local _).bind fun _ => Talk.fail_local _
  refine (Talk.readExact_local _).bind fun greeting => ?_
  refine (Talk.fail_local _).require.bind fun _ => ?_
  refine (declines _).require.bind fun _ => ?_
  refine (Talk.readExact_local _).bind fun methods => ?_
  exact (declines _).require.bind fun _ => Talk.writeAll_local _

theorem authenticate_local (credentials : Credentials) :
    Talk.Local (.io .unexpectedEof) (authenticate credentials) := by
  have declines : ∀ reason, Talk.Local (Failure.io .unexpectedEof)
      (writeAll [1, 1] >>= fun _ => refuse reason) := fun reason =>
    (Talk.writeAll_local _).bind fun _ => Talk.fail_local _
  refine (Talk.readExact_local _).bind fun auth => ?_
  refine (declines _).require.bind fun _ => ?_
  refine (Talk.readExact_local _).bind fun username => ?_
  refine (Talk.readExact_local _).bind fun passwordLen => ?_
  refine (Talk.readExact_local _).bind fun password => ?_
  exact (declines _).require.bind fun _ => Talk.writeAll_local _

theorem replied_local {α : Type} (code : UInt8) (reason : String) :
    Talk.Local (Failure.io .unexpectedEof)
      (Talk.ignore (reply code) >>= fun _ => (Talk.fail (.protocol reason) : Exchange α)) :=
  (Talk.ignore_writeAll_local _).bind fun _ => Talk.fail_local _

theorem readHost_local (atyp : UInt8) : Talk.Local (.io .unexpectedEof) (readHost atyp) := by
  unfold readHost
  split
  · exact (Talk.readExact_local _).bind fun octets => Talk.pure_local _
  split
  · exact (Talk.readExact_local _).bind fun octets => Talk.pure_local _
  split
  · refine (Talk.readExact_local _).bind fun length => ?_
    refine (replied_local _ _).require.bind fun _ => ?_
    refine (Talk.readExact_local _).bind fun name => ?_
    unfold decodeName
    split
    · exact Talk.pure_local _
    · exact replied_local _ _
  · exact replied_local _ _

theorem readRequest_local : Talk.Local (.io .unexpectedEof) readRequest := by
  refine (Talk.readExact_local _).bind fun request => ?_
  refine (Talk.fail_local _).require.bind fun _ => ?_
  refine (Talk.fail_local _).require.bind fun _ => ?_
  refine (replied_local _ _).require.bind fun _ => ?_
  refine (readHost_local _).bind fun host => ?_
  exact (Talk.readExact_local _).bind fun port => Talk.pure_local _

/-- Once the negotiation has come to a conclusion, bytes it has not read do not matter. -/
theorem negotiate_local (credentials : Credentials) :
    Talk.Local (.io .unexpectedEof) (negotiate credentials) :=
  negotiateMethod_local.bind fun _ => (authenticate_local credentials).bind fun _ => readRequest_local

end Locality

section Negotiation
variable {α β : Type} {said answer : List (List UInt8)}

inductive Failed : Failure → List (List UInt8) → Prop where
  | quietly {failure : Failure} {said : List (List UInt8)} :
      said <+: [[5, 2], [1, 0]] → Failed failure said
  | refusing {failure : Failure} {said : List (List UInt8)} {message : List UInt8} :
      failure ≠ .io .unexpectedEof → Refusal message → Transcript (said ++ [message]) →
      Failed failure (said ++ [message])

/-- After `said`, a talk over a wire that delivers writes `answer` and succeeds, or
leaves the transcript of a failed negotiation. -/
def Concludes (said answer : List (List UInt8)) (talk : Exchange α) : Prop :=
  ∀ wire : Wire, wire.Reliable → ∃ unread,
    (∃ value, talk wire = (.ok value, (wire.rest unread).wroteAll answer)) ∨
    ∃ failure more, Failed failure (said ++ more) ∧
      talk wire = (.error failure, (wire.rest unread).wroteAll more)

theorem concludes_of_answers {refusal : List UInt8 → Prop} {talk : Exchange α}
    (answers : Talk.Answers (.io .unexpectedEof) answer refusal talk)
    (begun : said <+: [[5, 2], [1, 0]])
    (refuses : ∀ message, refusal message → Refusal message ∧ Transcript (said ++ [message])) :
    Concludes said answer talk := by
  intro wire reliable
  obtain ⟨unread, succeeded | ⟨failure, ran⟩ | ⟨failure, message, deliberate, isRefusal, ran⟩⟩ :=
    answers wire reliable
  · exact ⟨unread, Or.inl succeeded⟩
  · refine ⟨unread, Or.inr ⟨failure, [], ?_, ?_⟩⟩
    · rw [List.append_nil]
      exact .quietly begun
    · rw [Wire.wroteAll_nil]
      exact ran
  · obtain ⟨refused, transcript⟩ := refuses message isRefusal
    exact ⟨unread, Or.inr ⟨failure, [message], .refusing deliberate refused transcript, ran⟩⟩

theorem Concludes.bind {more : List (List UInt8)} {talk : Exchange α} {next : α → Exchange β}
    (first : Concludes said answer talk) (second : ∀ value, Concludes (said ++ answer) more (next value)) :
    Concludes said (answer ++ more) (talk >>= next) := by
  intro wire reliable
  obtain ⟨unread, ⟨value, ran⟩ | ⟨failure, wrote, failed, ran⟩⟩ := first wire reliable
  · rw [Talk.bind_of_ok ran]
    -- The second talk reads on where the first stopped and writes after its answers.
    have joined : ∀ later messages, (((wire.rest unread).wroteAll answer).rest later).wroteAll messages =
        (wire.rest later).wroteAll (answer ++ messages) := by
      intro later messages
      simp only [Wire.wroteAll, Wire.rest, List.append_assoc]
    obtain ⟨later, ⟨last, continued⟩ | ⟨failure, wrote, failed, continued⟩⟩ :=
      second value ((wire.rest unread).wroteAll answer) reliable
    · exact ⟨later, Or.inl ⟨last, continued.trans (by rw [joined])⟩⟩
    · rw [List.append_assoc] at failed
      exact ⟨later, Or.inr ⟨failure, answer ++ wrote, failed, continued.trans (by rw [joined])⟩⟩
  · exact ⟨unread, Or.inr ⟨failure, wrote, failed, Talk.bind_of_error ran⟩⟩

theorem negotiate_concludes (credentials : Credentials) :
    Concludes [] [[5, 2], [1, 0]] (negotiate credentials) := by
  have method : Concludes [] [[5, 2]] negotiateMethod := by
    refine concludes_of_answers negotiateMethod_answers List.nil_prefix ?_
    rintro message rfl
    exact ⟨.noMethod, .selected _ (Or.inr rfl)⟩
  have login : Concludes [[5, 2]] [[1, 0]] (authenticate credentials) := by
    refine concludes_of_answers (authenticate_answers credentials) (by decide) ?_
    rintro message rfl
    exact ⟨.badLogin 1 (by decide), .authenticated 1⟩
  have request : Concludes [[5, 2], [1, 0]] [] readRequest := by
    refine concludes_of_answers readRequest_answers (List.prefix_refl _) ?_
    rintro message ⟨code, failing, rfl⟩
    exact ⟨.replied code failing, .replied code⟩
  exact method.bind fun _ => login.bind fun _ => request

theorem not_refusal_of_quiet {said : List (List UInt8)} (quiet : said <+: [[5, 2], [1, 0]])
    {message : List UInt8} (member : message ∈ said) : ¬ Refusal message := by
  have among := quiet.subset member
  intro refused
  cases refused with
  | noMethod => simp at among
  | badLogin status failing => simp [failing] at among
  | replied code failing => simp at among

theorem Failed.not_starved {failure : Failure} {said : List (List UInt8)} (failed : Failed failure said)
    {message : List UInt8} (member : message ∈ said) (refused : Refusal message) :
    failure ≠ .io .unexpectedEof := by
  cases failed with
  | quietly quiet => exact absurd refused (not_refusal_of_quiet quiet member)
  | refusing deliberate _ _ => exact deliberate

end Negotiation

section Connections
variable {front : Front} {overran : Option Wire} {dial : String → UInt16 → Option (Except TunnelError Unit)}
  {wire : Wire}

theorem transcript_of_quiet {said : List (List UInt8)} (quiet : said <+: [[5, 2], [1, 0]]) :
    Transcript said := by
  obtain ⟨rest, whole⟩ := quiet
  match said, whole with
  | [], _ => exact .silent
  | [first], whole =>
    cases whole
    exact .selected 2 (Or.inl rfl)
  | [first, second], whole =>
    cases whole
    exact .authenticated 0

theorem Failed.transcript {failure : Failure} {said : List (List UInt8)} (failed : Failed failure said) :
    Transcript said := by
  cases failed with
  | quietly quiet => exact transcript_of_quiet quiet
  | refusing _ _ transcript => exact transcript

theorem Transcript.eq_of_success {said : List (List UInt8)} (transcript : Transcript said)
    (member : replyBytes 0 ∈ said) : said = [[5, 2], [1, 0], replyBytes 0] := by
  cases transcript with
  | silent => cases member
  | selected method _ => simp [replyBytes] at member
  | authenticated status => simp [replyBytes] at member
  | replied code =>
    have same : replyBytes 0 = [5, code, 0, 1, 0, 0, 0, 0, 0, 0] := by simpa [replyBytes] using member
    rw [same]

theorem Failed.no_success {failure : Failure} {said : List (List UInt8)} (failed : Failed failure said) :
    replyBytes 0 ∉ said := by
  intro member
  cases failed with
  | quietly quiet => simpa [replyBytes] using quiet.subset member
  | refusing _ refused transcript =>
    -- The success reply would be the last message, and that one is the refusal.
    have ends := congrArg List.getLast? (transcript.eq_of_success member)
    simp only [List.getLast?_concat, List.getLast?_cons_cons, List.getLast?_singleton,
      Option.some.injEq] at ends
    subst ends
    cases refused with
    | replied _ failing => exact failing rfl

theorem replyCodeFor_ne_zero (error : TunnelError) : replyCodeFor error ≠ 0 := by
  unfold replyCodeFor
  split
  · split <;> decide
  · decide

inductive Ending (front : Front) (dial : String → UInt16 → Option (Except TunnelError Unit)) :
    Served → Prop where
  | undialled {failure reported : Failure} {wire : Wire} :
      Failed failure wire.written → Ending front dial ⟨.error reported, wire, []⟩
  | refused {host : String} {port : UInt16} {error : TunnelError} {code : UInt8} {wire : Wire} :
      dial host port ≠ some (.ok ()) → code ≠ 0 → wire.written = [[5, 2], [1, 0], replyBytes code] →
      Ending front dial ⟨.error (.dial error), wire,
        [.dial host port, .tunnelDialFailed front.proxyConfigId error.display]⟩
  | connected {host : String} {port : UInt16} {wire : Wire} :
      dial host port = some (.ok ()) → wire.written = [[5, 2], [1, 0], replyBytes 0] →
      Ending front dial ⟨.ok (), wire, [.dial host port, .tunnelDialSucceeded front.proxyConfigId]⟩

section Endings
variable {served : Served}

theorem Ending.transcript (ending : Ending front dial served) : Transcript served.wire.written := by
  cases ending with
  | undialled failed => exact failed.transcript
  | refused failed failing written =>
    rw [written]
    exact .replied _
  | connected answered written =>
    rw [written]
    exact .replied 0

theorem not_success_of_code {code : UInt8} (failing : code ≠ 0) :
    replyBytes 0 ∉ [[5, 2], [1, 0], replyBytes code] := by
  simp [replyBytes, Ne.symm failing]

theorem Ending.success_iff (ending : Ending front dial served) :
    replyBytes 0 ∈ served.wire.written ↔
      ∃ host port, Call.dial host port ∈ served.calls ∧ dial host port = some (.ok ()) := by
  cases ending with
  | undialled failed =>
    constructor
    · intro success
      exact absurd success failed.no_success
    · rintro ⟨host, port, called, -⟩
      cases called
  | refused failed failing written =>
    rw [written]
    constructor
    · intro success
      exact absurd success (not_success_of_code failing)
    · rintro ⟨otherHost, otherPort, called, answered⟩
      simp only [List.mem_cons, Call.dial.injEq, reduceCtorEq, List.not_mem_nil, or_false] at called
      obtain ⟨rfl, rfl⟩ := called
      exact absurd answered failed
  | @connected host port later answered written =>
    rw [written]
    exact ⟨fun _ => ⟨host, port, List.mem_cons_self, answered⟩, fun _ => by simp⟩

theorem Ending.success_last (ending : Ending front dial served) (pumping : served.result = .ok ()) :
    served.wire.written.getLast? = some (replyBytes 0) := by
  cases ending with
  | undialled failed => cases pumping
  | refused failed failing written => cases pumping
  | connected answered written =>
    rw [written]
    rfl

theorem Ending.report (ending : Ending front dial served) :
    served.calls = [] ∨ ∃ host port report, served.calls = [.dial host port, report] ∧
      ((report = .tunnelDialSucceeded front.proxyConfigId ∧ replyBytes 0 ∈ served.wire.written) ∨
        ∃ message, report = .tunnelDialFailed front.proxyConfigId message ∧
          replyBytes 0 ∉ served.wire.written) := by
  cases ending with
  | undialled failed => exact Or.inl rfl
  | @refused host port error code later failed failing written =>
    refine Or.inr ⟨host, port, _, rfl, Or.inr ⟨_, rfl, ?_⟩⟩
    rw [written]
    exact not_success_of_code failing
  | @connected host port later answered written =>
    refine Or.inr ⟨host, port, _, rfl, Or.inl ⟨rfl, ?_⟩⟩
    rw [written]
    simp

end Endings

theorem dialFailed_ending {later : Wire} (reliable : later.Reliable)
    (answered : later.written = [[5, 2], [1, 0]]) {host : String} {port : UInt16} {error : TunnelError}
    {code : UInt8} (failing : code ≠ 0) (failed : dial host port ≠ some (.ok ())) :
    Ending front dial (front.dialFailed later host port error code) := by
  unfold Front.dialFailed
  rw [reply_eq code reliable]
  refine .refused failed failing ?_
  change later.written ++ [replyBytes code] = _
  rw [answered]
  rfl

theorem Front.Abandons.failed {abandoned : Wire} (timed : front.Abandons wire abandoned)
    (reliable : wire.Reliable) (fresh : wire.written = []) :
    Failed (.io .unexpectedEof) abandoned.written := by
  obtain ⟨arrived, pending, starved, -, ran, rfl⟩ := timed
  obtain ⟨unread, ⟨value, concluded⟩ | ⟨failure, more, failed, concluded⟩⟩ :=
    negotiate_concludes front.credentials (wire.rest arrived) reliable
  · cases concluded.symm.trans ran
  · cases concluded.symm.trans ran
    change Failed _ (wire.written ++ more)
    rw [fresh]
    exact failed

theorem handleConnection_ending (reliable : wire.Reliable) (fresh : wire.written = [])
    (timed : ∀ abandoned, overran = some abandoned → front.Abandons wire abandoned) :
    Ending front dial (front.handleConnection overran dial wire) := by
  cases overran with
  | some abandoned => exact .undialled ((timed abandoned rfl).failed reliable fresh)
  | none =>
    obtain ⟨unread, ⟨⟨host, port⟩, concluded⟩ | ⟨failure, more, failed, concluded⟩⟩ :=
      negotiate_concludes front.credentials wire reliable
    · have delivering := (reliable.rest unread).wroteAll [[5, 2], [1, 0]]
      have answered : ((wire.rest unread).wroteAll [[5, 2], [1, 0]]).written = [[5, 2], [1, 0]] := by
        change wire.written ++ _ = _
        rw [fresh]
        rfl
      simp only [Front.handleConnection, concluded]
      split
      next connected =>
        rw [reply_eq _ delivering]
        refine .connected connected ?_
        change ((wire.rest unread).wroteAll [[5, 2], [1, 0]]).written ++ _ = _
        rw [answered]
        rfl
      next error failed =>
        exact dialFailed_ending delivering answered (replyCodeFor_ne_zero error) (by rw [failed]; nofun)
      next silent => exact dialFailed_ending delivering answered (by decide) (by rw [silent]; nofun)
    · simp only [Front.handleConnection, concluded]
      have said : Failed failure (wire.written ++ more) := by
        rw [fresh]
        exact failed
      exact .undialled said

theorem reply_unread (code : UInt8) (wire : Wire) : (reply code wire).2.unread = wire.unread := by
  unfold reply writeAll Talk.writeAll
  split <;> rfl

theorem handleConnection_unread :
    (front.handleConnection none dial wire).wire.unread = (negotiate front.credentials wire).2.unread := by
  unfold Front.handleConnection
  simp only
  split
  · next failure later ran => rw [ran]
  · next host port later ran =>
    rw [ran]
    split
    · exact reply_unread _ _
    · exact reply_unread _ _
    · exact reply_unread _ _

/-- A refusal is the last thing a connection does: no shorter input brings it about. -/
theorem refusal_unread (reliable : wire.Reliable) (fresh : wire.written = []) {heard : List UInt8}
    (arrived : heard <+: wire.unread) {message : List UInt8} (refused : Refusal message)
    (written : message ∈ (front.handleConnection none dial (wire.rest heard)).wire.written) :
    wire.unread.length ≤ heard.length + (front.handleConnection none dial wire).wire.unread.length := by
  obtain ⟨more, whole⟩ := arrived
  -- The shorter run wrote a refusal, so it was not starved and the longer run repeats it.
  have fed : ∀ failure later, negotiate front.credentials (wire.rest heard) = (.error failure, later) →
      failure ≠ .io .unexpectedEof := by
    intro failure later ran
    obtain ⟨unread, ⟨value, concluded⟩ | ⟨_, said, failed, concluded⟩⟩ :=
      negotiate_concludes front.credentials (wire.rest heard) reliable
    · cases concluded.symm.trans ran
    · cases concluded.symm.trans ran
      simp only [Front.handleConnection, ran] at written
      change message ∈ wire.written ++ said at written
      rw [fresh] at written
      exact failed.not_starved written refused
  have repeated : ∃ later : Wire, (negotiate front.credentials wire).2 = later.rest (later.unread ++ more) := by
    cases ran : negotiate front.credentials (wire.rest heard) with
    | mk result later =>
      have same := negotiate_local front.credentials (wire.rest heard) more result later ran (by
        rintro rfl
        exact fed _ later ran rfl)
      change negotiate front.credentials (wire.rest (heard ++ more)) = _ at same
      rw [whole] at same
      exact ⟨later, congrArg Prod.snd same⟩
  obtain ⟨later, ended⟩ := repeated
  rw [handleConnection_unread, ended, Wire.rest_unread, ← whole, List.length_append, List.length_append]
  omega

end Connections

/-- What the front says before it pumps, for every peer and every outcome of the dial:
at most a method selection, an authentication status and a reply, each only after the
one before it let the peer on. The reply is a success exactly when the dial returned a
stream, and it is the last thing written before pumping. A refusal is written after
the last byte that is read: no shorter input brings it about. The observer hears of
every dial once, and of a success exactly when the success reply is written. -/
theorem front_transcript (front : Front) (overran : Option Wire)
    (dial : String → UInt16 → Option (Except TunnelError Unit)) (wire : Wire) (reliable : wire.Reliable)
    (fresh : wire.written = [])
    (timed : ∀ abandoned, overran = some abandoned → front.Abandons wire abandoned) :
    let served := front.handleConnection overran dial wire
    Transcript served.wire.written ∧
    (replyBytes 0 ∈ served.wire.written ↔
      ∃ host port, Call.dial host port ∈ served.calls ∧ dial host port = some (.ok ())) ∧
    (served.result = .ok () → served.wire.written.getLast? = some (replyBytes 0)) ∧
    (∀ message ∈ served.wire.written, Refusal message → ∀ heard, heard <+: wire.unread →
      heard.length + served.wire.unread.length < wire.unread.length →
      message ∉ (front.handleConnection none dial (wire.rest heard)).wire.written) ∧
    (served.calls = [] ∨ ∃ host port report, served.calls = [.dial host port, report] ∧
      ((report = .tunnelDialSucceeded front.proxyConfigId ∧ replyBytes 0 ∈ served.wire.written) ∨
        ∃ message, report = .tunnelDialFailed front.proxyConfigId message ∧
          replyBytes 0 ∉ served.wire.written)) := by
  intro served
  have ending : Ending front dial served := handleConnection_ending reliable fresh timed
  refine ⟨ending.transcript, ending.success_iff, ending.success_last, ?_, ending.report⟩
  intro message written refused heard arrived shorter again
  cases overran with
  | some abandoned => exact ((timed abandoned rfl).failed reliable fresh).not_starved written refused rfl
  | none =>
    have read := refusal_unread reliable fresh arrived refused again
    exact absurd read (Nat.not_le.mpr shorter)

/-- One peer offers only anonymous access and is refused after its third byte; another
stops in the middle of its login and is given up on. -/
theorem front_transcript_refused_and_abandoned :
    ∃ (front : Front) (abandoned : Wire),
      (front.handleConnection none (fun _ _ => none) ⟨[5, 1, 0, 9], [], fun _ => true⟩).wire.written =
        [[5, 0xff]] ∧
      [5, 0xff] ∉ (front.handleConnection none (fun _ _ => none) ⟨[5, 1], [], fun _ => true⟩).wire.written ∧
      front.Abandons ⟨[5, 1, 2, 1], [], fun _ => true⟩ abandoned ∧ abandoned.written = [[5, 2]] ∧
      Transcript (front.handleConnection (some abandoned) (fun _ _ => none)
        ⟨[5, 1, 2, 1], [], fun _ => true⟩).wire.written := by
  let front : Front := ⟨"tunnel", ⟨"u", "p", by decide, by decide⟩⟩
  let abandoned : Wire := ⟨[], [[5, 2]], fun _ => true⟩
  have refused : (front.handleConnection none (fun _ _ => none)
      ⟨[5, 1, 0, 9], [], fun _ => true⟩).wire = ⟨[9], [[5, 0xff]], fun _ => true⟩ := rfl
  have timed : front.Abandons ⟨[5, 1, 2, 1], [], fun _ => true⟩ abandoned :=
    ⟨[5, 1, 2, 1], [], abandoned, rfl, rfl, rfl⟩
  have first := front_transcript front none (fun _ _ => none) ⟨[5, 1, 0, 9], [], fun _ => true⟩
    (fun _ => rfl) rfl nofun
  have second := front_transcript front (some abandoned) (fun _ _ => none)
    ⟨[5, 1, 2, 1], [], fun _ => true⟩ (fun _ => rfl) rfl (by rintro other ⟨⟩; exact timed)
  refine ⟨front, abandoned, by rw [refused], ?_, timed, rfl, second.1⟩
  have unheard := first.2.2.2.1 [5, 0xff] (by rw [refused]; simp) .noMethod [5, 1] ⟨[0, 9], rfl⟩
  exact unheard (by rw [refused]; decide)

end ProxyTunnels.Socks5
