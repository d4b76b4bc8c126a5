import Ldap.PagingRuns
import Ldap.SearchWithChannel
import Ldap.Entry

/-!
# String and raw values of the entries

An attribute of an entry holds its values twice: as strings, and as the raw bytes that
`GetRawAttributeValues` returns. The search loops read both from the same list of BER children,
one string and one byte slice per child (lines 577-580 and `unpackAttributes`), so in every
entry a search returns, each attribute has as many raw values as string values. This holds of
every run of `Search`, of every value `SearchWithChannel` sends, and of every result
`SearchWithPaging` buffers, and of the entries `NewEntry` builds.

Decoding says more of a packet the BER decoder gives, whose string nodes carry their texts'
bytes as raw values: the raw values of an entry read from it are the bytes of its string values.
The entries of this kind are exactly the ones read back from the SearchResultEntry message a
server sends for them, so they come back from `Search` and from `SearchWithChannel` as they were
sent, in order.
-/

namespace Ldap

/-- Every attribute of the entry has as many raw values as string values. -/
def Entry.Paired (e : Entry) : Prop :=
  ∀ attr ∈ e.attributes, attr.byteValues.length = attr.values.length

/-- Whether an entry is paired is decidable. -/
instance (e : Entry) : Decidable e.Paired := inferInstanceAs (Decidable (∀ _ ∈ _, _))

/-- Every entry of the result is paired. -/
def SearchResult.Paired (result : SearchResult) : Prop := ∀ e ∈ result.entries, e.Paired

/-- Appending paired results gives a paired result. -/
theorem SearchResult.Paired.append {result result' : SearchResult} (paired : result.Paired)
    (paired' : result'.Paired) : (result ++ result').Paired :=
  fun e member => (List.mem_append.mp member).elim (paired e) (paired' e)

/-! ## Reading an entry -/

/-- A `mapM` that succeeds gives one output per input, each an output of an input. -/
theorem mapM_ok {ε α β : Type} {f : α → Except ε β} {xs : List α} {ys : List β}
    (mapped : xs.mapM f = .ok ys) : ys.length = xs.length ∧ ∀ y ∈ ys, ∃ x ∈ xs, f x = .ok y := by
  induction xs generalizing ys with
  | nil =>
    cases mapped
    simp
  | cons x xs ih =>
    rw [List.mapM_cons] at mapped
    obtain ⟨y, first, mapped⟩ := except_bind_eq_ok.mp mapped
    obtain ⟨rest, others, mapped⟩ := except_bind_eq_ok.mp mapped
    cases mapped
    obtain ⟨length, members⟩ := ih others
    refine ⟨by simp [length], fun other member => ?_⟩
    rcases List.mem_cons.mp member with rfl | later
    · exact ⟨x, List.mem_cons_self _ _, first⟩
    · obtain ⟨input, inside, gives⟩ := members other later
      exact ⟨input, List.mem_cons_of_mem _ inside, gives⟩

/-- An attribute read from a packet has one raw value per string value. -/
theorem readAttribute_paired {child : Packet} {attr : EntryAttribute}
    (read : readAttribute child = .ok attr) :
    attr.byteValues.length = attr.values.length := by
  obtain ⟨first, -, read⟩ := except_bind_eq_ok.mp read
  obtain ⟨name, -, read⟩ := except_bind_eq_ok.mp read
  obtain ⟨list, -, read⟩ := except_bind_eq_ok.mp read
  obtain ⟨values, mapped, read⟩ := except_bind_eq_ok.mp read
  cases read
  simp [(mapM_ok mapped).1]

/-- An entry read from a packet is paired. -/
theorem response_paired {packet : Packet} {e : Entry} (decoded : packet.response = .ok (.entry e)) :
    e.Paired := by
  obtain ⟨op, -, decoded⟩ := except_bind_eq_ok.mp decoded
  split_ifs at decoded
  · obtain ⟨first, -, decoded⟩ := except_bind_eq_ok.mp decoded
    obtain ⟨dn, -, decoded⟩ := except_bind_eq_ok.mp decoded
    obtain ⟨list, -, decoded⟩ := except_bind_eq_ok.mp decoded
    obtain ⟨attrs, unpacked, decoded⟩ := except_bind_eq_ok.mp decoded
    cases decoded
    unfold Entry.Paired
    intro attr member
    obtain ⟨child, -, read⟩ := (mapM_ok unpacked).2 attr member
    exact readAttribute_paired read
  · cases decoded
  · obtain ⟨first, -, decoded⟩ := except_bind_eq_ok.mp decoded
    obtain ⟨uri, -, decoded⟩ := except_bind_eq_ok.mp decoded
    cases decoded
  · cases decoded

/-! ## Every loop keeps the entries paired -/

section Loops

variable (conn : Conn)

/-- An entry of its own is a paired result when the entry is paired. -/
theorem SearchResult.Paired.single {e : Entry} (paired : e.Paired) :
    ({ entries := [e] } : SearchResult).Paired :=
  fun _ member => List.mem_singleton.mp member ▸ paired

/-- A result without entries is paired. -/
theorem SearchResult.Paired.of_entries {result : SearchResult} (none : result.entries = []) :
    result.Paired :=
  fun e member => absurd (none ▸ member) (List.not_mem_nil e)

/-- The loop of `Search` adds only paired entries to the result it accumulates. -/
theorem searchLoop_paired {result : SearchResult} (paired : result.Paired)
    (queue : List (Except Error Packet)) {final : SearchResult} {err : Option Error}
    (ran : searchLoop conn result queue = .ok (final, err)) : final.Paired := by
  induction queue generalizing result with
  | nil =>
    cases ran
    exact paired
  | cons head queue ih =>
    rcases head with failure | packet
    · cases ran
      exact paired
    · obtain ⟨response, decoded, ran⟩ := except_bind_eq_ok.mp ran
      cases response with
      | entry e =>
        simp only [searchResponse, SearchResult.update_entries] at ran
        exact ih (paired.append (.single (response_paired decoded))) ran
      | done packet =>
        cases ran
        rw [searchDone_append]
        exact paired.append (.of_entries rfl)
      | reference uri =>
        simp only [searchResponse, SearchResult.update_referrals] at ran
        exact ih (paired.append (.of_entries rfl)) ran
      | other => exact ih paired ran

/-- Every result `Search` returns is paired. -/
theorem search_paired {answer : Answer} {result : SearchResult} {err : Option Error}
    (searched : search conn answer = .ok (some result, err)) : result.Paired := by
  rcases answer with failure | queue
  · cases searched
  · obtain ⟨⟨final, err'⟩, ran, searched⟩ := except_bind_eq_ok.mp searched
    cases searched
    exact searchLoop_paired conn (.of_entries rfl) queue ran

/-- Every value the loop of `SearchWithChannel` sends is paired. -/
theorem channelLoop_paired (queue : List (Except Error Packet)) :
    ∀ value ∈ (channelLoop conn queue).1, value.Paired := by
  induction queue with
  | nil => simp [channelLoop]
  | cons head queue ih =>
    rcases head with failure | packet
    · simp [channelLoop]
    · cases decoded : packet.response with
      | error failure => simp [channelLoop, decoded]
      | ok response =>
        cases response with
        | entry e =>
          simp only [channelLoop, decoded, channelResponse, Option.toList_some,
            List.singleton_append, List.forall_mem_cons]
          exact ⟨.single (response_paired decoded), ih⟩
        | done packet =>
          simp only [channelLoop, decoded, channelResponse]
          intro value sent
          exact .of_entries (channelDone_found conn packet value
            (by simpa using sent)).1
        | reference uri =>
          simp only [channelLoop, decoded, channelResponse, Option.toList_some,
            List.singleton_append, List.forall_mem_cons]
          exact ⟨.of_entries rfl, ih⟩
        | other => simpa [channelLoop, decoded, channelResponse] using ih

variable {server : Server}

/-- A pass of the paging loop buffers only paired pages. -/
theorem pagingPass_paired {state : Paging} {pass : Pass}
    (passed : pagingPass conn server state = .ok pass) (paired : state.searchResult.Paired) :
    pass.state.searchResult.Paired := by
  obtain ⟨result, err, searched, cases⟩ := pagingPass_cases passed
  rcases cases with ⟨_, _, rfl⟩ | ⟨page, rfl, rfl, -, rfl⟩ |
    ⟨page, _, _, rfl, rfl, -, -, -, rfl⟩
  · exact paired
  · exact paired.append (search_paired conn searched)
  · exact paired.append (search_paired conn searched)

/-- Every run of the paging loop buffers only paired pages. -/
theorem pagingLoop_paired {fuel : ℕ} {state : Paging} {pass : Pass}
    (ran : pagingLoop conn server fuel state = .ok pass) (paired : state.searchResult.Paired) :
    pass.state.searchResult.Paired := by
  induction fuel generalizing state with
  | zero =>
    cases ran
    exact paired
  | succ fuel ih =>
    simp only [pagingLoop] at ran
    obtain ⟨first, passed, ran⟩ := except_bind_eq_ok.mp ran
    have buffered := pagingPass_paired conn passed paired
    cases first with
    | next state' => exact ih ran buffered
    | broke _ | returned _ _ =>
      cases ran
      exact buffered

/-- Every result `SearchWithPaging` returns is paired. -/
theorem searchWithPaging_paired {fuel : ℕ} {request : SearchRequest} {pagingSize : UInt32}
    {run : Paged} (ran : searchWithPaging conn server fuel request pagingSize = .ok run) :
    ∀ result ∈ run.result, result.Paired := by
  rcases searchWithPaging_cases request pagingSize with
    ⟨control, found, other⟩ | ⟨position, cookie, slot, holds, runs⟩
  · obtain ⟨err, refused⟩ := searchWithPaging_refused found other conn server fuel
    rw [refused] at ran
    cases ran
    simp
  · rw [runs, pagingRun] at ran
    obtain ⟨pass, looped, ran⟩ := except_bind_eq_ok.mp ran
    have paired := pagingLoop_paired conn looped (.of_entries rfl)
    have ended := (looping_start holds).loop slot fuel looped
    cases pass with
    | next state =>
      cases ran
      simp
    | broke state =>
      simp only [pagingAbandon, ended.2.1] at ran
      cases ran
      simpa [Paging.returns] using paired
    | returned state err =>
      cases ran
      simpa [Paging.returns] using paired

end Loops

/-- Every entry `NewEntry` builds is paired. -/
theorem newEntry_paired (dn : GoString) (attributes : AttributeMap) :
    (newEntry dn attributes).Paired := by
  unfold Entry.Paired
  simp [newEntry, newEntryAttribute]

/-- Every entry the package hands out pairs each string value of an attribute with a raw value:
the entries of every result `Search` returns, of every value `SearchWithChannel` sends, of
every result `SearchWithPaging` returns, in every run, and every entry `NewEntry` builds. -/
theorem entries_paired (conn : Conn) :
    (∀ answer result err, search conn answer = .ok (some result, err) → result.Paired) ∧
    (∀ answer channel, ∀ value ∈ (searchWithChannel conn answer channel).1.sent, value.Paired) ∧
    (∀ server fuel request pagingSize run,
      searchWithPaging conn server fuel request pagingSize = .ok run →
        ∀ result ∈ run.result, result.Paired) ∧
    ∀ dn attributes, (newEntry dn attributes).Paired := by
  refine ⟨fun _ _ _ searched => search_paired conn searched, fun answer channel => ?_,
    fun _ _ _ _ _ ran => searchWithPaging_paired conn ran, newEntry_paired⟩
  rcases channel with _ | _
  · simp [searchWithChannel]
  · rcases answer with failure | queue
    · simp [searchWithChannel]
    · exact channelLoop_paired conn queue

/-! ## Entries as a server sends them

The BER decoder fills the text and the raw bytes of a string node from one content, so in every
packet it gives, a node that holds a string has that string's bytes as its raw value. An entry
read from such a packet has as raw values the bytes of its string values; the entries of this
kind, every entry `NewEntry` builds among them, are exactly those read back from the
SearchResultEntry message a server sends for them. -/

/-- Whether a node's raw bytes are those the decoder gives with its value: the bytes of the
text, for a node that holds a string. -/
def Value.holdsBytes : Value → List UInt8 → Bool
  | .string text, bytes => decide (bytes = text.bytes)
  | _, _ => true

mutual

/-- Every node of the packet that holds a string has that string's bytes as its raw value, as
in every packet the BER decoder gives. -/
def Packet.consistent : Packet → Bool
  | ⟨_, value, byteValue, children⟩ => value.holdsBytes byteValue && Packet.allConsistent children

/-- Every packet of the list is consistent. -/
def Packet.allConsistent : List Packet → Bool
  | [] => true
  | packet :: packets => packet.consistent && Packet.allConsistent packets

end

/-- A list is consistent when each of its packets is. -/
theorem allConsistent_iff (packets : List Packet) :
    Packet.allConsistent packets = true ↔ ∀ packet ∈ packets, packet.consistent = true := by
  induction packets with
  | nil => simp [Packet.allConsistent]
  | cons packet packets ih => simp [Packet.allConsistent, ih]

/-- A packet is consistent when its own raw value and each child are. -/
theorem consistent_iff (packet : Packet) :
    packet.consistent = true ↔ packet.value.holdsBytes packet.byteValue = true ∧
      ∀ child ∈ packet.children, child.consistent = true := by
  obtain ⟨tag, value, byteValue, children⟩ := packet
  simp [Packet.consistent, allConsistent_iff]

/-- A child of a consistent packet is consistent. -/
theorem consistent_child {packet child : Packet} {i : ℕ} (consistent : packet.consistent = true)
    (read : packet.child i = .ok child) : child.consistent = true := by
  unfold Packet.child index at read
  split at read
  · cases read
    exact ((consistent_iff packet).mp consistent).2 child (List.getElem?_mem ‹_›)
  · cases read

/-- Every raw value of the entry is the bytes of its string value, as in every entry read from a
packet the BER decoder gives. -/
def Entry.Consistent (e : Entry) : Prop :=
  ∀ attr ∈ e.attributes, attr.byteValues = attr.values.map (·.bytes)

/-- Whether an entry is consistent is decidable. -/
instance (e : Entry) : Decidable e.Consistent := inferInstanceAs (Decidable (∀ _ ∈ _, _))

/-- Nodes of a consistent list, each asserted to be a string, have the bytes of their texts as
raw values. -/
theorem mapM_assertString_bytes {children : List Packet} {texts : List GoString}
    (consistent : ∀ child ∈ children, child.consistent = true)
    (read : children.mapM (·.value.assertString) = .ok texts) :
    children.map (·.byteValue) = texts.map (·.bytes) := by
  induction children generalizing texts with
  | nil =>
    cases read
    rfl
  | cons child children ih =>
    rw [List.forall_mem_cons] at consistent
    rw [List.mapM_cons] at read
    obtain ⟨text, asserted, read⟩ := except_bind_eq_ok.mp read
    obtain ⟨rest, others, read⟩ := except_bind_eq_ok.mp read
    cases read
    have holds := ((consistent_iff child).mp consistent.1).1
    cases held : child.value <;> simp only [held, Value.assertString] at asserted <;>
      cases asserted
    simp only [held, Value.holdsBytes, decide_eq_true_eq] at holds
    simp [holds, ih consistent.2 others]

/-- An attribute read from a consistent packet is consistent. -/
theorem readAttribute_consistent {child : Packet} {attr : EntryAttribute}
    (consistent : child.consistent = true) (read : readAttribute child = .ok attr) :
    attr.byteValues = attr.values.map (·.bytes) := by
  obtain ⟨first, -, read⟩ := except_bind_eq_ok.mp read
  obtain ⟨name, -, read⟩ := except_bind_eq_ok.mp read
  obtain ⟨list, listed, read⟩ := except_bind_eq_ok.mp read
  obtain ⟨values, mapped, read⟩ := except_bind_eq_ok.mp read
  cases read
  exact mapM_assertString_bytes ((consistent_iff list).mp (consistent_child consistent listed)).2
    mapped

/-- An entry read from a consistent packet is consistent. -/
theorem response_consistent {packet : Packet} {e : Entry} (consistent : packet.consistent = true)
    (decoded : packet.response = .ok (.entry e)) : e.Consistent := by
  obtain ⟨op, opened, decoded⟩ := except_bind_eq_ok.mp decoded
  have consistentOp := consistent_child consistent opened
  split_ifs at decoded
  · obtain ⟨first, -, decoded⟩ := except_bind_eq_ok.mp decoded
    obtain ⟨dn, -, decoded⟩ := except_bind_eq_ok.mp decoded
    obtain ⟨list, listed, decoded⟩ := except_bind_eq_ok.mp decoded
    obtain ⟨attrs, unpacked, decoded⟩ := except_bind_eq_ok.mp decoded
    cases decoded
    intro attr member
    obtain ⟨child, inside, read⟩ := (mapM_ok unpacked).2 attr member
    exact readAttribute_consistent (((consistent_iff list).mp
      (consistent_child consistentOp listed)).2 child inside) read
  · cases decoded
  · obtain ⟨first, -, decoded⟩ := except_bind_eq_ok.mp decoded
    obtain ⟨uri, -, decoded⟩ := except_bind_eq_ok.mp decoded
    cases decoded
  · cases decoded

/-- An OCTET STRING as the BER decoder gives it: its text, and the text's bytes as its raw
value. -/
def octetString (text : GoString) : Packet := ⟨4, .string text, text.bytes, []⟩

/-- An OCTET STRING holds its text. -/
@[simp] theorem octetString_value (text : GoString) : (octetString text).value = .string text :=
  rfl

/-- An OCTET STRING's raw value is its text's bytes. -/
@[simp] theorem octetString_byteValue (text : GoString) :
    (octetString text).byteValue = text.bytes := rfl

/-- A string asserts to its text. -/
theorem assertString_string (text : GoString) : (Value.string text).assertString = .ok text := rfl

/-- An attribute of a SearchResultEntry as a server sends it: the SEQUENCE of its name and of
the SET of its values, each an OCTET STRING. -/
def EntryAttribute.message (attr : EntryAttribute) : Packet :=
  ⟨16, .nil, [], [octetString attr.name, ⟨17, .nil, [], attr.values.map octetString⟩]⟩

/-- A SearchResultEntry as a server sends it: the envelope of the message ID and of the
protocol operation, which holds the DN and the SEQUENCE of the attributes. -/
def Entry.message (messageID : BitVec 64) (e : Entry) : Packet :=
  ⟨16, .nil, [], [⟨2, .int64 messageID, [], []⟩, ⟨applicationSearchResultEntry, .nil, [],
    [octetString e.dn, ⟨16, .nil, [], e.attributes.map EntryAttribute.message⟩]⟩]⟩

/-- The message a server sends for an entry is consistent. -/
theorem message_consistent (messageID : BitVec 64) (e : Entry) :
    (e.message messageID).consistent = true := by
  simp [Entry.message, EntryAttribute.message, octetString, Packet.consistent,
    Packet.allConsistent, Value.holdsBytes, allConsistent_iff]

/-- The responses to a search that finds `entries`: their messages, then the SearchResultDone. -/
def entryQueue (messageID : BitVec 64) (entries : List Entry) (done : Packet) :
    List (Except Error Packet) :=
  entries.map (fun e => .ok (e.message messageID)) ++ [.ok done]

/-- With no entries, the queue holds only the SearchResultDone. -/
@[simp] theorem entryQueue_nil (messageID : BitVec 64) (done : Packet) :
    entryQueue messageID [] done = [.ok done] := rfl

/-- The queue starts with the first entry's message. -/
@[simp] theorem entryQueue_cons (messageID : BitVec 64) (e : Entry) (entries : List Entry)
    (done : Packet) :
    entryQueue messageID (e :: entries) done =
      .ok (e.message messageID) :: entryQueue messageID entries done := rfl

/-- A `mapM` whose every step succeeds maps. -/
theorem mapM_map_of_ok {ε α β γ : Type} {f : β → Except ε γ} {h : α → β} {g : α → γ}
    {xs : List α} (ok : ∀ x ∈ xs, f (h x) = .ok (g x)) : (xs.map h).mapM f = .ok (xs.map g) := by
  induction xs with
  | nil => rfl
  | cons x xs ih =>
    rw [List.map_cons, List.mapM_cons, ok x (List.mem_cons_self _ _), except_ok_bind,
      ih fun y member => ok y (List.mem_cons_of_mem _ member)]
    rfl

/-- The decoder reads a consistent attribute back from its message. -/
theorem readAttribute_message {attr : EntryAttribute}
    (consistent : attr.byteValues = attr.values.map (·.bytes)) :
    readAttribute attr.message = .ok attr := by
  have values : (attr.values.map octetString).mapM (·.value.assertString) =
      .ok (attr.values.map fun text => text) :=
    mapM_map_of_ok fun _ _ => rfl
  simp only [readAttribute, EntryAttribute.message, Packet.child, index, List.getElem?_cons_zero,
    List.getElem?_cons_succ, octetString_value, assertString_string, except_ok_bind, values]
  simp [except_pure, Function.comp_def, ← consistent]

/-- The decoder reads a consistent entry back from its message. -/
theorem response_message (messageID : BitVec 64) {e : Entry} (consistent : e.Consistent) :
    (e.message messageID).response = .ok (.entry e) := by
  have attributes :
      unpackAttributes (e.attributes.map EntryAttribute.message) = .ok e.attributes := by
    rw [unpackAttributes, mapM_map_of_ok fun attr member =>
      readAttribute_message (consistent attr member), List.map_id']
  simp only [Packet.response, Entry.message, Packet.child, index, List.getElem?_cons_zero,
    List.getElem?_cons_succ, octetString_value, assertString_string, except_ok_bind, attributes]
  rfl

/-- An entry is read from some consistent packet exactly when it is consistent. -/
theorem response_entry_iff (e : Entry) :
    (∃ packet : Packet, packet.consistent = true ∧ packet.response = .ok (.entry e)) ↔
      e.Consistent :=
  ⟨fun ⟨_, consistent, decoded⟩ => response_consistent consistent decoded,
    fun consistent => ⟨e.message 0, message_consistent 0 e, response_message 0 consistent⟩⟩

/-- Every entry `NewEntry` builds is consistent. -/
theorem newEntry_consistent (dn : GoString) (attributes : AttributeMap) :
    (newEntry dn attributes).Consistent := by
  unfold Entry.Consistent
  simp [newEntry, newEntryAttribute]

section Queue

variable (conn : Conn) (messageID : BitVec 64) {entries : List Entry}
  (consistent : ∀ e ∈ entries, e.Consistent) {done : Packet}
  (ending : done.response = .ok (.done done))
include consistent ending

/-- The loop of `Search` appends the entries of the messages and the controls of the
SearchResultDone. -/
theorem searchLoop_entryQueue (result : SearchResult) :
    searchLoop conn result (entryQueue messageID entries done) =
      .ok (result ++ { entries, controls := (searchDone conn {} done).1.controls },
        (searchDone conn {} done).2) := by
  induction entries generalizing result with
  | nil =>
    simp only [entryQueue_nil, searchLoop, ending, searchResponse, except_ok_bind]
    rw [searchDone_append]
    rfl
  | cons e entries ih =>
    rw [List.forall_mem_cons] at consistent
    rw [entryQueue_cons, searchLoop, response_message messageID consistent.1, except_ok_bind]
    simp only [searchResponse, SearchResult.update_entries]
    rw [ih consistent.2, SearchResult.append_assoc result]
    rfl

/-- The loop of `SearchWithChannel` sends each entry of the messages on its own, then what the
SearchResultDone sends. -/
theorem channelLoop_entryQueue :
    channelLoop conn (entryQueue messageID entries done) =
      (entries.map (fun e => { entries := [e] }) ++ (channelDone conn done).1.toList,
        .ok (channelDone conn done).2) := by
  induction entries with
  | nil => simp [channelLoop, ending, channelResponse]
  | cons e entries ih =>
    rw [List.forall_mem_cons] at consistent
    rw [entryQueue_cons, channelLoop, response_message messageID consistent.1]
    simp [channelResponse, ih consistent.2]

end Queue

/-- Entries survive the wire. An entry is read from some packet the BER decoder could give
exactly when each of its raw values is the bytes of its string value, as in every entry
`NewEntry` builds; and the SearchResultEntry messages a server sends for such entries, ended by
a SearchResultDone, are read back as the same entries in order: by `Search` as one result, with
no referral and the controls of the SearchResultDone, and by `SearchWithChannel` as one value
each, before what the SearchResultDone sends. -/
theorem entries_round_trip (conn : Conn) (messageID : BitVec 64) :
    (∀ e : Entry,
      (∃ packet : Packet, packet.consistent = true ∧ packet.response = .ok (.entry e)) ↔
        e.Consistent) ∧
    (∀ dn attributes, (newEntry dn attributes).Consistent) ∧
    ∀ entries : List Entry, (∀ e ∈ entries, e.Consistent) →
      ∀ done : Packet, done.response = .ok (.done done) →
        search conn (.ok (entryQueue messageID entries done)) =
          .ok (some { entries, controls := (searchDone conn {} done).1.controls },
            (searchDone conn {} done).2) ∧
        (searchWithChannel conn (.ok (entryQueue messageID entries done)) .made).1.sent =
          entries.map (fun e => { entries := [e] }) ++ (channelDone conn done).1.toList := by
  refine ⟨response_entry_iff, newEntry_consistent, fun entries consistent done ending => ⟨?_, ?_⟩⟩
  · simp [search, searchLoop_entryQueue conn messageID consistent ending]
  · simp [searchWithChannel, channelLoop_entryQueue conn messageID consistent ending]

/-- An entry with one attribute, whose raw value is the bytes of its string value. -/
def mailEntry : Entry :=
  ⟨.ofString "cn=a", [⟨.ofString "mail", [.ofString "a@example.org"],
    [(GoString.ofString "a@example.org").bytes]⟩]⟩

/-- The message for `mailEntry`, ended by a SearchResultDone, is read back as `mailEntry` by
both searches. -/
theorem entries_round_trip_sample :
    (∀ e ∈ [mailEntry], e.Consistent) ∧ (donePacket []).response = .ok (.done (donePacket [])) ∧
    search sampleConn (.ok (entryQueue 1 [mailEntry] (donePacket []))) =
      .ok (some { entries := [mailEntry]
                  controls := (searchDone sampleConn {} (donePacket [])).1.controls },
        (searchDone sampleConn {} (donePacket [])).2) ∧
    (searchWithChannel sampleConn (.ok (entryQueue 1 [mailEntry] (donePacket []))) .made).1.sent =
      [{ entries := [mailEntry] }] ++ (channelDone sampleConn (donePacket [])).1.toList :=
  have consistent : ∀ e ∈ [mailEntry], e.Consistent := by decide
  ⟨consistent, rfl,
    (entries_round_trip sampleConn 1).2.2 [mailEntry] consistent (donePacket []) rfl⟩

end Ldap
