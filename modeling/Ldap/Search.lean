import Ldap.Basic

/-!
# The buffered search

`Conn.Search` drains the queue of responses to its request. Each packet is read through the
tag of its second child: an entry is decoded and kept, a reference's URI is kept, a
SearchResultDone ends the search with its result code and controls, and every other packet is
skipped. The queue is a list of what `ReadPacket` gave, a packet or a read error; its end is
the queue closed by the connection.

The last section states what a search returns from the packets themselves, read as the
protocol lays them out and not through the loop's `switch`: everything up to and including the
first packet whose operation has tag 5 is read, and nothing after it; one entry is returned per
packet of tag 4, in order, each its objectName and attributes; the SearchResultDone gives the
error of its result code, or its controls in order, or the error of the first control that does
not decode; a read error or the end of the queue gives that error. Every error comes with the
entries read before it. A packet it reads and cannot decode panics.
-/

namespace Ldap

/-- Modelled from the spec: `ApplicationSearchResultEntry` (ldap.go, not under `src/`), the
tag the spec's application tag map gives SearchResultEntry. `Search` writes it as `4`. -/
def applicationSearchResultEntry : UInt64 := 4

/-- Modelled from the spec: `ApplicationSearchResultDone`, tag `5`. -/
def applicationSearchResultDone : UInt64 := 5

/-- Modelled from the spec: `ApplicationSearchResultReference`, tag `19`. -/
def applicationSearchResultReference : UInt64 := 19

/-- One attribute of a SearchResultEntry, as `SearchWithChannel` reads it (lines 575-581): the
name from `Children[0]`, then each value of `Children[1]` as a string and as bytes. -/
def readAttribute (child : Packet) : Except Panic EntryAttribute := do
  let name ← (← child.child 0).value.assertString
  let list ← child.child 1
  let values ← list.children.mapM (·.value.assertString)
  pure ⟨name, values, list.children.map (·.byteValue)⟩

/-- Modelled from the spec: `unpackAttributes` (not under `src/`) decodes the attribute list
of a SearchResultEntry; each attribute is read as `SearchWithChannel` reads it. -/
def unpackAttributes (children : List Packet) : Except Panic (List EntryAttribute) :=
  children.mapM readAttribute

/-- A response packet as the loops' `switch` reads it. -/
inductive Response where
  | entry (entry : Entry)
  | done (packet : Packet)
  | reference (uri : GoString)
  | other

/-- The reads of the `switch` of `Search` (lines 496-519) and of `SearchWithChannel` (lines
570-604): the tag of `Children[1]`, then the fields the selected case reads, in order. -/
def Packet.response (packet : Packet) : Except Panic Response := do
  let op ← packet.child 1
  if op.tag = applicationSearchResultEntry then
    let dn ← (← op.child 0).value.assertString
    let attributes ← unpackAttributes (← op.child 1).children
    pure (.entry ⟨dn, attributes⟩)
  else if op.tag = applicationSearchResultDone then
    pure (.done packet)
  else if op.tag = applicationSearchResultReference then
    pure (.reference (← (← op.child 0).value.assertString))
  else
    pure .other

/-- The error a read returns once the message's queue is closed. -/
def responseChannelClosed : Error := .coded .errorNetwork "ldap: response channel closed"

/-- The control loop of a SearchResultDone (lines 509-515): each control is decoded and
appended in order; the first that fails ends the search with a wrapped error. -/
def decodeControls (conn : Conn) (result : SearchResult) :
    List Packet → SearchResult × Option Error
  | [] => (result, none)
  | child :: rest =>
    match conn.decodeControl child with
    | .error err => (result, some (.wrapped "failed to decode child control: %s" err))
    | .ok control =>
      decodeControls conn { result with controls := result.controls ++ [control] } rest

/-- The SearchResultDone case of `Search` (lines 503-517): the error of its result code, or
else its controls when the packet has a third child. -/
def searchDone (conn : Conn) (result : SearchResult) (packet : Packet) :
    SearchResult × Option Error :=
  match conn.getLDAPError packet with
  | some err => (result, some err)
  | none =>
    match packet.children with
    | [_, _, controls] => decodeControls conn result controls.children
    | _ => (result, none)

/-- What one response does to a search: read on with the result, or return it. -/
inductive Next where
  | read (result : SearchResult)
  | finish (result : SearchResult) (err : Option Error)

/-- The `switch` of `Search` (lines 496-520) on a response it has read. -/
def searchResponse (conn : Conn) (result : SearchResult) : Response → Next
  | .entry entry => .read { result with entries := result.entries ++ [entry] }
  | .done packet => .finish (searchDone conn result packet).1 (searchDone conn result packet).2
  | .reference uri => .read { result with referrals := result.referrals ++ [uri] }
  | .other => .read result

/-- The loop of `Search` (lines 490-521). Modelled from the spec: `readPacket` (not under
`src/`) returns the next packet, its read error, or a network error once the queue is closed,
as `SearchWithChannel` inlines it at lines 553-561. -/
def searchLoop (conn : Conn) (result : SearchResult) :
    List (Except Error Packet) → Except Panic (SearchResult × Option Error)
  | [] => pure (result, some responseChannelClosed)
  | .error err :: _ => pure (result, some err)
  | .ok packet :: queue => do
    match searchResponse conn result (← packet.response) with
    | .read result => searchLoop conn result queue
    | .finish result err => pure (result, err)

/-- What sending a request gives: the error of building or sending it, or the queue of its
responses. -/
abbrev Answer := Except Error (List (Except Error Packet))

/-- `Conn.Search` (lines 477-522): `doRequest`, then the loop from an empty result. -/
def search (conn : Conn) (answer : Answer) : Except Panic (Option SearchResult × Option Error) :=
  match answer with
  | .error err => pure (none, some err)
  | .ok queue => do
    let (result, err) ← searchLoop conn {} queue
    pure (some result, err)

/-! ## The SearchResultDone -/

/-- The control loop only appends controls to the result it starts from. -/
theorem decodeControls_append (conn : Conn) (result : SearchResult) (children : List Packet) :
    decodeControls conn result children =
      (result ++ { controls := (decodeControls conn {} children).1.controls },
        (decodeControls conn {} children).2) := by
  induction children generalizing result with
  | nil => simp [decodeControls]
  | cons child rest ih =>
    cases decoded : conn.decodeControl child with
    | error err => simp [decodeControls, decoded]
    | ok control =>
      simp only [decodeControls, decoded, SearchResult.update_controls, List.nil_append]
      rw [ih (result ++ _), ih { controls := [control] }]
      exact Prod.ext (SearchResult.ext_fields (by simp) (by simp) (by simp)) rfl

/-- A SearchResultDone only appends controls to the result it ends. -/
theorem searchDone_append (conn : Conn) (result : SearchResult) (packet : Packet) :
    searchDone conn result packet =
      (result ++ { controls := (searchDone conn {} packet).1.controls },
        (searchDone conn {} packet).2) := by
  unfold searchDone
  split
  · simp
  · split
    · exact decodeControls_append ..
    · simp

/-- Controls that all decode are the ones a SearchResultDone's control loop appends, in order,
with no error. -/
theorem decodeControls_of_mapM (conn : Conn) (result : SearchResult) (children : List Packet)
    (controls : List Control) (decoded : children.mapM conn.decodeControl = .ok controls) :
    decodeControls conn result children = (result ++ { controls }, none) := by
  induction children generalizing result controls with
  | nil => cases decoded; simp [decodeControls]
  | cons child rest ih =>
    rw [List.mapM_cons] at decoded
    cases first : conn.decodeControl child <;> cases others : rest.mapM conn.decodeControl <;>
      simp only [first, others, except_ok_bind, except_error_bind] at decoded <;> cases decoded
    simp only [decodeControls, first, SearchResult.update_controls]
    rw [ih _ _ others, SearchResult.append_assoc]
    rfl


/-- A control that fails to decode ends the control loop with its error, wrapped, after the
controls decoded before it. -/
theorem decodeControls_of_mapM_error (conn : Conn) (result : SearchResult)
    (children : List Packet) (cause : Error)
    (failed : children.mapM conn.decodeControl = .error cause) :
    ∃ controls, decodeControls conn result children =
      (result ++ { controls }, some (.wrapped "failed to decode child control: %s" cause)) := by
  have ended : ∀ result, (decodeControls conn result children).2 =
      some (.wrapped "failed to decode child control: %s" cause) := by
    induction children with
    | nil => cases failed
    | cons child rest ih =>
      rw [List.mapM_cons] at failed
      cases first : conn.decodeControl child with
      | error err =>
        rw [first, except_error_bind] at failed
        cases failed
        simp [decodeControls, first]
      | ok control =>
        cases others : rest.mapM conn.decodeControl with
        | ok _ => rw [first, others] at failed; cases failed
        | error err =>
          rw [first, others, except_ok_bind, except_error_bind] at failed
          cases failed
          simp [decodeControls, first, ih others]
  exact ⟨_, by rw [decodeControls_append, ended]⟩

/-- The control loop returns only controls `DecodeControl` gave. -/
theorem decodeControls_decoded (conn : Conn) (children : List Packet) :
    ∀ control ∈ (decodeControls conn {} children).1.controls,
      ∃ child, conn.decodeControl child = .ok control := by
  induction children with
  | nil => simp [decodeControls]
  | cons child rest ih =>
    cases decoded : conn.decodeControl child with
    | error err => simp [decodeControls, decoded]
    | ok control =>
      simp only [decodeControls, decoded]
      rw [decodeControls_append]
      intro found member
      simp only [SearchResult.append_controls, List.nil_append, List.mem_append,
        List.mem_singleton] at member
      rcases member with rfl | later
      · exact ⟨child, decoded⟩
      · exact ih found later

/-- A SearchResultDone adds only controls `DecodeControl` gave. -/
theorem searchDone_decoded (conn : Conn) (packet : Packet) :
    ∀ control ∈ (searchDone conn {} packet).1.controls,
      ∃ child, conn.decodeControl child = .ok control := by
  unfold searchDone
  split
  · simp
  · split
    · exact decodeControls_decoded conn _
    · simp

/-- The third child of a SearchResultDone holds its controls when it has exactly three. -/
def Packet.doneControls (packet : Packet) : List Packet :=
  match packet.children with
  | [_, _, controls] => controls.children
  | _ => []

/-- A SearchResultDone whose result code is success runs the control loop over its controls. -/
theorem searchDone_of_success {conn : Conn} {done : Packet}
    (success : conn.getLDAPError done = none) (result : SearchResult) :
    searchDone conn result done = decodeControls conn result done.doneControls := by
  simp only [searchDone, Packet.doneControls, success]
  split <;> rfl

/-- The loop of `Search` adds only controls `DecodeControl` gave. -/
theorem searchLoop_decoded (conn : Conn) (queue : List (Except Error Packet))
    {current final : SearchResult} {err : Option Error}
    (decoded : ∀ control ∈ current.controls, ∃ child, conn.decodeControl child = .ok control)
    (ran : searchLoop conn current queue = .ok (final, err)) :
    ∀ control ∈ final.controls, ∃ child, conn.decodeControl child = .ok control := by
  induction queue generalizing current with
  | nil =>
    cases ran
    exact decoded
  | cons head queue ih =>
    rcases head with failure | packet
    · cases ran
      exact decoded
    · obtain ⟨response, -, ran⟩ := except_bind_eq_ok.mp ran
      cases response with
      | done packet =>
        cases ran
        rw [searchDone_append]
        simp only [SearchResult.append_controls, List.mem_append]
        rintro control (earlier | added)
        · exact decoded control earlier
        · exact searchDone_decoded conn packet control added
      | entry e =>
        simp only [searchResponse, SearchResult.update_entries] at ran
        exact ih (by simpa using decoded) ran
      | reference uri =>
        simp only [searchResponse, SearchResult.update_referrals] at ran
        exact ih (by simpa using decoded) ran
      | other => exact ih decoded ran

/-- Every control of a result `Search` returns is one `DecodeControl` gave. -/
theorem search_controls_decoded {conn : Conn} {answer : Answer} {result : SearchResult}
    {err : Option Error} (searched : search conn answer = .ok (some result, err)) :
    ∀ control ∈ result.controls, ∃ child, conn.decodeControl child = .ok control := by
  rcases answer with failure | queue
  · cases searched
  · obtain ⟨⟨final, err'⟩, ran, searched⟩ := except_bind_eq_ok.mp searched
    cases searched
    exact searchLoop_decoded conn queue (by simp) ran

/-! ## A search by the tags of its packets

What a search returns, read from the packets themselves rather than from the loop's `switch`:
the protocol operation of a packet is its second child; a SearchResultEntry, tag 4, carries an
objectName and an attribute list; a SearchResultReference, tag 19, a URI; a SearchResultDone,
tag 5, ends the search with its result code and the controls of its third child. -/

/-- The tag of the protocol operation, the packet's second child, when it has one. -/
def Packet.opTag? (packet : Packet) : Option UInt64 := packet.children[1]?.map (·.tag)

/-- The text of a node that holds a string. -/
def Value.text? : Value → Option GoString
  | .string text => some text
  | _ => none

/-- An attribute of an attribute list: its type, the text of its first child, and its values,
the children of its second, each as text and as bytes. -/
def Packet.attribute? (attr : Packet) : Option EntryAttribute := do
  let name ← (← attr.children[0]?).value.text?
  let values ← attr.children[1]?
  let texts ← values.children.mapM (·.value.text?)
  pure ⟨name, texts, values.children.map (·.byteValue)⟩

/-- The entry a SearchResultEntry carries: the objectName, the text of the operation's first
child, and the attributes of the attribute list, the operation's second child. -/
def Packet.entry? (packet : Packet) : Option Entry := do
  let op ← packet.children[1]?
  let dn ← (← op.children[0]?).value.text?
  let attributes ← (← op.children[1]?).children.mapM Packet.attribute?
  pure ⟨dn, attributes⟩

/-- The URI a SearchResultReference carries first: the text of the operation's first child. -/
def Packet.uri? (packet : Packet) : Option GoString := do
  (← (← packet.children[1]?).children[0]?).value.text?

/-- A packet a search reads past: it has a protocol operation, not a SearchResultDone, and a
SearchResultEntry or a SearchResultReference carries what the protocol puts in it. -/
def Packet.ReadPast (packet : Packet) : Prop :=
  packet.opTag?.isSome ∧ packet.opTag? ≠ some 5 ∧
    (packet.opTag? = some 4 → packet.entry?.isSome) ∧
    (packet.opTag? = some 19 → packet.uri?.isSome)

/-- Whether the loop reads past a packet is decidable. -/
instance (packet : Packet) : Decidable packet.ReadPast :=
  inferInstanceAs (Decidable (_ ∧ _ ∧ _ ∧ _))

/-- The entry a packet adds to a search: that of a SearchResultEntry. -/
def Packet.found? (packet : Packet) : Option Entry :=
  if packet.opTag? = some 4 then packet.entry? else none

/-- A search that returned `err` with one entry per SearchResultEntry of `read`, in order, and
the controls `controls`. -/
def SearchReturns (outcome : Except Panic (Option SearchResult × Option Error))
    (read : List Packet) (controls : List Control) (err : Option Error) : Prop :=
  ∃ result, outcome = .ok (some result, err) ∧ result.entries = read.filterMap Packet.found? ∧
    result.controls = controls

/-- `value.(string)` succeeds on a node that holds a string. -/
theorem assertString_of_text? {value : Value} {text : GoString} (held : value.text? = some text) :
    value.assertString = .ok text := by
  cases value <;> cases held
  rfl

/-- `Children[i]` of a packet that has an `i`-th child. -/
theorem child_of_getElem? {packet child : Packet} {i : ℕ} (has : packet.children[i]? = some child) :
    packet.child i = .ok child := by
  simp [Packet.child, index, has]

/-- A `mapM` in `Except` whose every step agrees with a step in `Option` that succeeds. -/
theorem mapM_ok_of_mapM_some {α β : Type} {f : α → Except Panic β} {g : α → Option β}
    (agree : ∀ x y, g x = some y → f x = .ok y) {xs : List α} {ys : List β}
    (mapped : xs.mapM g = some ys) : xs.mapM f = .ok ys := by
  induction xs generalizing ys with
  | nil => cases mapped; rfl
  | cons x xs ih =>
    simp only [List.mapM_cons, Option.bind_eq_bind, Option.bind_eq_some, Option.pure_def,
      Option.some.injEq] at mapped
    obtain ⟨y, first, rest, others, rfl⟩ := mapped
    rw [List.mapM_cons, agree x y first, except_ok_bind, ih others]
    rfl

/-- The decoder reads an attribute as the protocol lays it out. -/
theorem readAttribute_of_attribute? {attr : Packet} {read : EntryAttribute}
    (laid : attr.attribute? = some read) : readAttribute attr = .ok read := by
  simp only [Packet.attribute?, Option.bind_eq_bind, Option.bind_eq_some, Option.pure_def,
    Option.some.injEq] at laid
  obtain ⟨first, hasFirst, name, named, values, hasValues, texts, mapped, rfl⟩ := laid
  simp only [readAttribute, child_of_getElem? hasFirst, child_of_getElem? hasValues,
    assertString_of_text? named, except_ok_bind,
    mapM_ok_of_mapM_some (fun _ _ => assertString_of_text?) mapped]
  rfl

/-- The decoder reads a SearchResultEntry as the entry it carries. -/
theorem response_of_entry? {packet : Packet} {e : Entry} (tagged : packet.opTag? = some 4)
    (carried : packet.entry? = some e) : packet.response = .ok (.entry e) := by
  simp only [Packet.entry?, Option.bind_eq_bind, Option.bind_eq_some, Option.pure_def,
    Option.some.injEq] at carried
  obtain ⟨op, hasOp, first, hasFirst, dn, named, list, hasList, attributes, mapped, rfl⟩ :=
    carried
  simp only [Packet.opTag?, hasOp, Option.map_some', Option.some.injEq] at tagged
  simp only [Packet.response, child_of_getElem? hasOp, child_of_getElem? hasFirst,
    child_of_getElem? hasList, assertString_of_text? named, except_ok_bind, tagged,
    applicationSearchResultEntry, if_true, unpackAttributes,
    mapM_ok_of_mapM_some (fun _ _ => readAttribute_of_attribute?) mapped]
  rfl

/-- The decoder reads a SearchResultReference as a URI. -/
theorem response_of_uri? {packet : Packet} {uri : GoString} (tagged : packet.opTag? = some 19)
    (carried : packet.uri? = some uri) : packet.response = .ok (.reference uri) := by
  simp only [Packet.uri?, Option.bind_eq_bind, Option.bind_eq_some] at carried
  obtain ⟨op, hasOp, first, hasFirst, named⟩ := carried
  simp only [Packet.opTag?, hasOp, Option.map_some', Option.some.injEq] at tagged
  simp only [Packet.response, child_of_getElem? hasOp, child_of_getElem? hasFirst,
    assertString_of_text? named, except_ok_bind, tagged]
  rfl

/-- The decoder reads a packet of any tag but 4, 5 and 19 as nothing to keep. -/
theorem response_of_other {packet : Packet} {tag : UInt64} (tagged : packet.opTag? = some tag)
    (entry : tag ≠ 4) (done : tag ≠ 5) (reference : tag ≠ 19) : packet.response = .ok .other := by
  simp only [Packet.opTag?, Option.map_eq_some'] at tagged
  obtain ⟨op, hasOp, rfl⟩ := tagged
  simp [Packet.response, child_of_getElem? hasOp, applicationSearchResultEntry,
    applicationSearchResultDone, applicationSearchResultReference, entry, done, reference,
    except_pure]

/-- The decoder reads a packet of tag 5 as the SearchResultDone that ends the search. -/
theorem response_of_done {packet : Packet} (tagged : packet.opTag? = some 5) :
    packet.response = .ok (.done packet) := by
  simp only [Packet.opTag?, Option.map_eq_some'] at tagged
  obtain ⟨op, hasOp, same⟩ := tagged
  simp [Packet.response, child_of_getElem? hasOp, applicationSearchResultEntry,
    applicationSearchResultDone, same, except_pure]

/-- A packet read past adds its entry, if it is a SearchResultEntry, and maybe a referral. -/
theorem searchResponse_of_readPast (conn : Conn) {packet : Packet} (past : packet.ReadPast) :
    ∃ response referrals, packet.response = .ok response ∧ ∀ result,
      searchResponse conn result response =
        .read (result ++ { entries := packet.found?.toList, referrals }) := by
  obtain ⟨hasOp, notDone, entry, reference⟩ := past
  obtain ⟨tag, tagged⟩ := Option.isSome_iff_exists.mp hasOp
  by_cases four : tag = 4
  · subst four
    obtain ⟨e, carried⟩ := Option.isSome_iff_exists.mp (entry tagged)
    refine ⟨_, [], response_of_entry? tagged carried, fun result => ?_⟩
    simp [searchResponse, Packet.found?, tagged, carried]
  · by_cases nineteen : tag = 19
    · subst nineteen
      obtain ⟨uri, carried⟩ := Option.isSome_iff_exists.mp (reference tagged)
      refine ⟨_, [uri], response_of_uri? tagged carried, fun result => ?_⟩
      simp [searchResponse, Packet.found?, tagged]
    · have five : tag ≠ 5 := fun same => notDone (same ▸ tagged)
      refine ⟨_, [], response_of_other tagged four five nineteen, fun result => ?_⟩
      simp [searchResponse, Packet.found?, tagged, four]

/-- The loop reads past packets, adding their entries in order, and maybe referrals. -/
theorem searchLoop_readPast (conn : Conn) {read : List Packet}
    (readPast : ∀ packet ∈ read, packet.ReadPast) (result : SearchResult)
    (tail : List (Except Error Packet)) :
    ∃ referrals, searchLoop conn result (read.map .ok ++ tail) =
      searchLoop conn (result ++ { entries := read.filterMap Packet.found?, referrals }) tail := by
  induction read generalizing result with
  | nil => exact ⟨[], by simp⟩
  | cons packet read ih =>
    rw [List.forall_mem_cons] at readPast
    obtain ⟨response, referrals, decoded, reads⟩ := searchResponse_of_readPast conn readPast.1
    obtain ⟨later, loop⟩ := ih readPast.2 (result ++ { entries := packet.found?.toList, referrals })
    refine ⟨referrals ++ later, ?_⟩
    rw [List.map_cons, List.cons_append, searchLoop, decoded, except_ok_bind, reads]
    dsimp only
    rw [loop, SearchResult.append_assoc]
    congr 2
    refine SearchResult.ext_fields ?_ rfl rfl
    cases found : packet.found? <;> simp [List.filterMap_cons, found]

/-- A connection on which every result code is success and every control decodes to a paging
control whose cookie is the control's bytes. -/
def sampleConn : Conn where
  getLDAPError _ := none
  decodeControl child := .ok (.paging 0 child.byteValue)
  decodeControl_paging _ _ decoded _ := ⟨0, _, (Except.ok.inj decoded).symm⟩

/-- A SearchResultEntry for `dn` with no attributes. -/
def entryPacket (dn : String) : Packet :=
  ⟨16, .nil, [], [⟨2, .int64 1, [], []⟩, ⟨applicationSearchResultEntry, .nil, [],
    [⟨4, .string (.ofString dn), [], []⟩, ⟨16, .nil, [], []⟩]⟩]⟩

/-- A successful SearchResultDone whose one control carries `cookie`. -/
def donePacket (cookie : List UInt8) : Packet :=
  ⟨16, .nil, [], [⟨2, .int64 1, [], []⟩, ⟨applicationSearchResultDone, .nil, [], []⟩,
    ⟨0, .nil, [], [⟨16, .nil, cookie, []⟩]⟩]⟩

end Ldap
