import Ldap.Search

/-!
# The streaming search

`Conn.SearchWithChannel` reads the same responses as `Search` and sends each entry and each
referral on the caller's channel as a value of its own; a SearchResultDone with controls sends
them as one last value, and the channel is closed on every return, a panic included, by its
`defer`. `channelLoop_simulates` relates the two loops response by response: the run of one
panics exactly where the other does, returns the same error, and the values sent add up to
the result `Search` accumulates.
-/

namespace Ldap

/-- The channel argument of `SearchWithChannel`: nil, or one made by the caller. -/
inductive Channel where
  | nil
  | made

/-- What `SearchWithChannel` does to its channel: the values sent, in order, and whether the
channel was closed. -/
structure Delivery where
  sent : List SearchResult
  closed : Bool

/-- The error for a nil channel (line 530). -/
def nilChannelError : Error := .coded .errorUsage "ldap: SearchWithChannel got nil channel"

/-- The SearchResultDone case of `SearchWithChannel` (lines 586-600): the error of its result
code; else, when it has a third child, its controls decoded in a fresh result that is sent, or
the first decoding error. -/
def channelDone (conn : Conn) (packet : Packet) : Option SearchResult × Option Error :=
  match conn.getLDAPError packet with
  | some err => (none, some err)
  | none =>
    match packet.children with
    | [_, _, controls] =>
      match decodeControls conn {} controls.children with
      | (result, none) => (some result, none)
      | (_, some err) => (none, some err)
    | _ => (none, none)

/-- The `switch` of `SearchWithChannel` (lines 570-605) on a response it has read: the value
it sends, if any, and, when the loop ends, the error it returns. -/
def channelResponse (conn : Conn) : Response → Option SearchResult × Option (Option Error)
  | .entry entry => (some { entries := [entry] }, none)
  | .done packet => ((channelDone conn packet).1, some (channelDone conn packet).2)
  | .reference uri => (some { referrals := [uri] }, none)
  | .other => (none, none)

/-- The loop of `SearchWithChannel` (lines 551-606): the values sent, then how it ended. A
panic keeps the values sent before it. -/
def channelLoop (conn : Conn) :
    List (Except Error Packet) → List SearchResult × Except Panic (Option Error)
  | [] => ([], .ok (some responseChannelClosed))
  | .error err :: _ => ([], .ok (some err))
  | .ok packet :: queue =>
    match packet.response with
    | .error failure => ([], .error failure)
    | .ok response =>
      match channelResponse conn response with
      | (value, some err) => (value.toList, .ok err)
      | (value, none) => (value.toList ++ (channelLoop conn queue).1, (channelLoop conn queue).2)

/-- `Conn.SearchWithChannel` (lines 528-611). The request is built and sent as `Search` sends
it, so both see the same answer; every return after line 532 closes the channel. -/
def searchWithChannel (conn : Conn) (answer : Answer) :
    Channel → Delivery × Except Panic (Option Error)
  | .nil => (⟨[], false⟩, .ok (some nilChannelError))
  | .made =>
    match answer with
    | .error err => (⟨[], true⟩, .ok (some err))
    | .ok queue => (⟨(channelLoop conn queue).1, true⟩, (channelLoop conn queue).2)

/-! ## Agreement with `Search` -/

/-- How a run of the loop of `SearchWithChannel` matches a run of the loop of `Search` that
started from `result`: the same panic; or the same error, with the entries and referrals sent
adding up to those `Search` accumulated, and the controls too when it succeeded. -/
def Matches (result : SearchResult) :
    Except Panic (SearchResult × Option Error) →
      List SearchResult × Except Panic (Option Error) → Prop
  | .error failure, channel => channel.2 = .error failure
  | .ok (final, err), channel =>
    channel.2 = .ok err ∧ final.entries = result.entries ++ (joined channel.1).entries ∧
      final.referrals = result.referrals ++ (joined channel.1).referrals ∧
      (err = none → final.controls = result.controls ++ (joined channel.1).controls)

/-- Values sent before a run count as accumulated by `Search` before it. -/
theorem matches_sent_before {result : SearchResult} {values : List SearchResult}
    {run : Except Panic (SearchResult × Option Error)} {sent : List SearchResult}
    {outcome : Except Panic (Option Error)}
    (later : Matches (result ++ joined values) run (sent, outcome)) :
    Matches result run (values ++ sent, outcome) := by
  rcases run with failure | ⟨final, err⟩
  · exact later
  · obtain ⟨same, entries, referrals, controls⟩ := later
    refine ⟨same, ?_, ?_, fun success => ?_⟩
    · simp [entries, joined_append]
    · simp [referrals, joined_append]
    · simp [controls success, joined_append]

/-- The SearchResultDone case of `SearchWithChannel` returns the error `Search` returns from an
empty result, and sends a value only on success; on success the values sent join to that
result. -/
theorem channelDone_sent (conn : Conn) (packet : Packet) :
    (channelDone conn packet).2 = (searchDone conn {} packet).2 ∧
      (∀ value ∈ (channelDone conn packet).1, (searchDone conn {} packet).2 = none) ∧
      ((searchDone conn {} packet).2 = none →
        joined (channelDone conn packet).1.toList = (searchDone conn {} packet).1) := by
  unfold channelDone searchDone
  cases conn.getLDAPError packet with
  | some err => simp
  | none =>
    dsimp only
    generalize packet.children = children
    match children with
    | [_, _, list] =>
      rcases decoded : decodeControls conn {} list.children with ⟨value, _ | err⟩ <;>
        simp [decoded]
    | [] | [_] | [_, _] | _ :: _ :: _ :: _ :: _ => simp

/-- The value a SearchResultDone sends holds no entry and no referral. -/
theorem channelDone_found (conn : Conn) (packet : Packet) :
    ∀ value ∈ (channelDone conn packet).1, value.entries = [] ∧ value.referrals = [] := by
  intro value sent
  obtain ⟨-, success, joins⟩ := channelDone_sent conn packet
  have same : value = (searchDone conn {} packet).1 := by
    simpa [Option.mem_def.mp sent] using joins (success value sent)
  rw [same, searchDone_append]
  exact ⟨rfl, rfl⟩

/-- The SearchResultDone cases of the two loops agree: the same error, and on success the
value sent holds exactly the controls `Search` appends. -/
theorem channelDone_matches (conn : Conn) (result : SearchResult) (packet : Packet) :
    Matches result (.ok (searchDone conn result packet))
      ((channelDone conn packet).1.toList, .ok (channelDone conn packet).2) := by
  obtain ⟨same, -, joins⟩ := channelDone_sent conn packet
  have empty : (joined (channelDone conn packet).1.toList).entries = [] ∧
      (joined (channelDone conn packet).1.toList).referrals = [] := by
    cases sent : (channelDone conn packet).1 with
    | none => exact ⟨rfl, rfl⟩
    | some value => simpa using channelDone_found conn packet value sent
  rw [searchDone_append]
  exact ⟨by rw [same], by simp [empty.1], by simp [empty.2],
    fun success => by simp [joins success]⟩

/-- The loops of `Search` and `SearchWithChannel` simulate each other response by response. -/
theorem channelLoop_simulates (conn : Conn) (result : SearchResult)
    (queue : List (Except Error Packet)) :
    Matches result (searchLoop conn result queue) (channelLoop conn queue) := by
  induction queue generalizing result with
  | nil => simp [searchLoop, channelLoop, Matches, except_pure]
  | cons head queue ih =>
    rcases head with err | packet
    · simp [searchLoop, channelLoop, Matches, except_pure]
    · cases decoded : packet.response with
      | error failure => simp [searchLoop, channelLoop, decoded, Matches]
      | ok response =>
        cases response with
        | entry _ | reference _ =>
          simp only [searchLoop, channelLoop, decoded, except_ok_bind, searchResponse,
            channelResponse, SearchResult.update_entries, SearchResult.update_referrals]
          exact matches_sent_before (by simpa using ih _)
        | done done =>
          simpa [searchLoop, channelLoop, decoded, searchResponse, channelResponse]
            using channelDone_matches conn result done
        | other =>
          simpa [searchLoop, channelLoop, decoded, searchResponse, channelResponse] using ih result

/-- The values one run of `SearchWithChannel` sends: each entry and each referral as a value of
its own, then at most one value, last, holding only the SearchResultDone's controls. -/
def Delivered (sent : List SearchResult) : Prop :=
  ∃ streamed closing, sent = streamed ++ Option.toList closing ∧
    (∀ value ∈ streamed,
      (∃ entry, value = { entries := [entry] }) ∨ ∃ uri, value = { referrals := [uri] }) ∧
    ∀ value ∈ closing, value.entries = [] ∧ value.referrals = []

/-- A value of one entry or one referral sent first keeps the shape of what follows. -/
theorem delivered_cons {value : SearchResult} {sent : List SearchResult}
    (single :
      (∃ entry, value = { entries := [entry] }) ∨ ∃ uri, value = { referrals := [uri] })
    (later : Delivered sent) : Delivered (value :: sent) := by
  obtain ⟨streamed, closing, rfl, streaming, closes⟩ := later
  refine ⟨value :: streamed, closing, rfl, ?_, closes⟩
  intro other member
  rcases List.mem_cons.mp member with rfl | member
  · exact single
  · exact streaming other member

/-- Every run of the loop of `SearchWithChannel` sends values of that shape. -/
theorem channelLoop_delivered (conn : Conn) (queue : List (Except Error Packet)) :
    Delivered (channelLoop conn queue).1 := by
  have empty : Delivered [] := ⟨[], none, rfl, by simp, by simp⟩
  induction queue with
  | nil => exact empty
  | cons head queue ih =>
    rcases head with err | packet
    · exact empty
    · cases decoded : packet.response with
      | error failure => simpa [channelLoop, decoded] using empty
      | ok response =>
        cases response with
        | entry entry =>
          simpa [channelLoop, decoded, channelResponse]
            using delivered_cons (.inl ⟨entry, rfl⟩) ih
        | done done =>
          simp only [channelLoop, decoded, channelResponse]
          exact ⟨[], (channelDone conn done).1, rfl, by simp, channelDone_found conn done⟩
        | reference uri =>
          simpa [channelLoop, decoded, channelResponse]
            using delivered_cons (.inr ⟨uri, rfl⟩) ih
        | other => simpa [channelLoop, decoded, channelResponse] using ih

/-- `SearchWithChannel` on a channel its caller made agrees with `Search` on the same answer.
It closes the channel on every return. It sends each entry and each referral as a value of its
own, and at most one value of controls, last. It panics exactly when `Search` panics; otherwise
it returns the same error, the entries and referrals it sends are those `Search` returns, in
order, and when both succeed so are the controls. -/
theorem searchWithChannel_agrees (conn : Conn) (answer : Answer) :
    (searchWithChannel conn answer .made).1.closed = true ∧
    Delivered (searchWithChannel conn answer .made).1.sent ∧
    (∀ failure, (searchWithChannel conn answer .made).2 = .error failure ↔
      search conn answer = .error failure) ∧
    ∀ result err, search conn answer = .ok (result, err) →
      (searchWithChannel conn answer .made).2 = .ok err ∧
      (joined (searchWithChannel conn answer .made).1.sent).entries = (result.getD {}).entries ∧
      (joined (searchWithChannel conn answer .made).1.sent).referrals =
        (result.getD {}).referrals ∧
      (err = none →
        (joined (searchWithChannel conn answer .made).1.sent).controls =
          (result.getD {}).controls) := by
  rcases answer with err | queue
  · refine ⟨rfl, ⟨[], none, rfl, by simp, by simp⟩,
      by simp [searchWithChannel, search, except_pure], ?_⟩
    intro result failure returned
    simp only [search, except_pure, Except.ok.injEq, Prod.mk.injEq] at returned
    obtain ⟨rfl, rfl⟩ := returned
    simp [searchWithChannel]
  · have simulated := channelLoop_simulates conn {} queue
    refine ⟨rfl, channelLoop_delivered conn queue, ?_⟩
    simp only [searchWithChannel, search]
    rcases run : searchLoop conn {} queue with failure | ⟨final, err⟩ <;> rw [run] at simulated
    · simp only [Matches] at simulated
      simp [simulated]
    · obtain ⟨same, entries, referrals, controls⟩ := simulated
      simp only [except_ok_bind, except_pure, same, reduceCtorEq, false_iff, Except.ok.injEq,
        Prod.mk.injEq]
      refine ⟨fun _ => trivial, ?_⟩
      rintro result _ ⟨rfl, rfl⟩
      exact ⟨rfl, by simp [entries], by simp [referrals],
        fun success => by simp [controls success]⟩

/-! ## Packets the loops misread -/

/-- Both loops keep only the first URI of a SearchResultReference: one carrying `ldap://a/`
and `ldap://b/` delivers `ldap://a/` alone, from `Search` and on the channel. -/
theorem reference_keeps_first_uri (conn : Conn) :
    let uri (text : String) : Packet := ⟨4, .string (.ofString text), [], []⟩
    let reference : Packet :=
      ⟨16, .nil, [], [⟨2, .int64 1, [], []⟩, ⟨19, .nil, [], [uri "ldap://a/", uri "ldap://b/"]⟩]⟩
    search conn (.ok [.ok reference]) =
        .ok (some { referrals := [.ofString "ldap://a/"] }, some responseChannelClosed) ∧
      (searchWithChannel conn (.ok [.ok reference]) .made).1.sent =
        [{ referrals := [.ofString "ldap://a/"] }] :=
  ⟨rfl, rfl⟩

/-- A packet with only its message ID, which the connection's reader passes on, makes both
loops panic on `packet.Children[1]` instead of returning an error; the channel is closed by
the `defer` as the panic unwinds. -/
theorem short_packet_panics (conn : Conn) :
    let packet : Packet := ⟨16, .nil, [], [⟨2, .int64 1, [], []⟩]⟩
    search conn (.ok [.ok packet]) = .error .indexOutOfRange ∧
      (searchWithChannel conn (.ok [.ok packet]) .made).1.closed = true ∧
      (searchWithChannel conn (.ok [.ok packet]) .made).2 = .error .indexOutOfRange :=
  ⟨rfl, rfl, rfl⟩

end Ldap
