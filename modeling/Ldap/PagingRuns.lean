import Ldap.Paging

/-!
# Runs of the paging helper

The loop of `SearchWithPaging` has no bound of its own: it stops only on an error, a missing
result, or a page whose paging control is missing or has an empty cookie. The model runs it for
at most `fuel` passes. A run that returns within its fuel is the run of the Go loop, since more
fuel changes nothing; a run still going has made one call per pass, each of which got a page
with a non-empty cookie. Whatever the run, the caller's request changes only in the cookie of
the paging control the helper uses. Against a server that pages out a list of pages, the helper
sends one request per page, in order, and returns them all.
-/

namespace Ldap

/-- Whether the loop stops at this pass, by a `break` or a return. -/
def Pass.stopped : Pass → Bool
  | .next _ => false
  | _ => true

/-! ## More passes -/

section Fuel

variable {conn : Conn} {server : Server}

/-- A loop that stopped within `fuel` passes stops the same way with more. -/
theorem pagingLoop_add {fuel : ℕ} {state : Paging} {pass : Pass}
    (ran : pagingLoop conn server fuel state = .ok pass) (stopped : pass.stopped = true)
    (more : ℕ) : pagingLoop conn server (fuel + more) state = .ok pass := by
  induction fuel generalizing state with
  | zero =>
    cases ran
    simp [Pass.stopped] at stopped
  | succ fuel ih =>
    rw [Nat.add_right_comm]
    simp only [pagingLoop] at ran ⊢
    obtain ⟨first, passed, ran⟩ := except_bind_eq_ok.mp ran
    rw [passed, except_ok_bind]
    cases first with
    | next state' => exact ih ran
    | broke _ | returned _ _ => exact ran

/-- Each pass records one call. -/
theorem pagingPass_calls {state : Paging} {pass : Pass}
    (passed : pagingPass conn server state = .ok pass) :
    pass.state.calls.length = state.calls.length + 1 := by
  obtain ⟨result, err, -, cases⟩ := pagingPass_cases passed
  rcases cases with ⟨_, _, rfl⟩ | ⟨_, -, -, -, rfl⟩ | ⟨_, _, _, -, -, -, -, -, rfl⟩ <;>
    simp [Pass.state]

/-- A loop still going after `fuel` passes has recorded one call per pass. -/
theorem pagingLoop_calls {fuel : ℕ} {state state' : Paging}
    (ran : pagingLoop conn server fuel state = .ok (.next state')) :
    state'.calls.length = state.calls.length + fuel := by
  induction fuel generalizing state with
  | zero =>
    cases ran
    rfl
  | succ fuel ih =>
    simp only [pagingLoop] at ran
    obtain ⟨first, passed, ran⟩ := except_bind_eq_ok.mp ran
    cases first with
    | next next =>
      have counted := pagingPass_calls passed
      simp only [Pass.state] at counted
      rw [ih ran, counted]
      omega
    | broke _ | returned _ _ => cases ran

/-- Calls chained one to the next, the last to `request`, each went on to a next request. -/
theorem continued_of_chain {calls : List Call} {request : SearchRequest}
    (chained : calls.Chain' fun call next => call.Continues next.request)
    (pending : ∀ call ∈ calls.getLast?, call.Continues request) :
    ∀ call ∈ calls, ∃ next, call.Continues next := by
  induction calls with
  | nil => simp
  | cons call rest ih =>
    rw [List.chain'_cons'] at chained
    intro other member
    cases rest with
    | nil =>
      rw [List.mem_singleton.mp member]
      exact ⟨request, pending call rfl⟩
    | cons next more =>
      rcases List.mem_cons.mp member with rfl | later
      · exact ⟨next.request, chained.1 next rfl⟩
      · exact ih chained.2 (fun last isLast => pending last (by simpa using isLast)) other later

/-- A refused call does not read the fuel. -/
theorem searchWithPaging_refused_fuel {request : SearchRequest} {pagingSize : UInt32}
    {control : Control} (found : findControl request.controls controlTypePaging = some control)
    (other : ∀ cookie, control ≠ .paging pagingSize cookie) (fuel fuel' : ℕ) :
    searchWithPaging conn server fuel request pagingSize =
      searchWithPaging conn server fuel' request pagingSize := by
  cases control with
  | paging size cookie =>
    have differs : size ≠ pagingSize := fun same => other cookie (by rw [same])
    simp only [searchWithPaging, found, if_pos differs]
  | other controlType => simp only [searchWithPaging, found]

/-- The fuel bound is faithful to the Go loop, which has none. A run of `SearchWithPaging`
that returns within `fuel` passes returns the same with any more. A run that has not returned
after `fuel` passes has made `fuel` calls of `Search`, each of which got a page without error
whose paging control has a non-empty cookie, copied into the next request: the loop goes on only
while the server keeps sending non-empty cookies. -/
theorem searchWithPaging_fuel {fuel : ℕ} {request : SearchRequest} {pagingSize : UInt32}
    {run : Paged} (ran : searchWithPaging conn server fuel request pagingSize = .ok run) :
    (run.finished = true →
      ∀ more, searchWithPaging conn server (fuel + more) request pagingSize = .ok run) ∧
    (run.finished = false →
      run.calls.length = fuel ∧ ∀ call ∈ run.calls, ∃ next, call.Continues next) := by
  rcases searchWithPaging_cases request pagingSize with
    ⟨control, found, other⟩ | ⟨position, cookie, slot, holds, runs⟩
  · obtain ⟨err, refused⟩ := searchWithPaging_refused found other conn server fuel
    rw [refused] at ran
    cases ran
    exact ⟨fun _ more => (searchWithPaging_refused_fuel found other _ _).trans refused, nofun⟩
  · rw [runs, pagingRun] at ran
    obtain ⟨pass, looped, ran⟩ := except_bind_eq_ok.mp ran
    have ended := (looping_start holds).loop slot fuel looped
    refine ⟨fun finished more => ?_, fun unfinished => ?_⟩
    · have stopped : pass.stopped = true := by
        cases pass with
        | next state =>
          cases ran
          cases finished
        | broke _ | returned _ _ => rfl
      rw [runs, pagingRun, pagingLoop_add looped stopped more, except_ok_bind]
      exact ran
    · cases pass with
      | next state =>
        cases ran
        exact ⟨by simpa using pagingLoop_calls looped,
          continued_of_chain ended.trace.chained ended.pending⟩
      | broke state =>
        simp only [pagingAbandon, ended.2.1] at ran
        cases ran
        cases unfinished
      | returned state err =>
        cases ran
        cases unfinished

end Fuel

/-- One pass of the sample search stops after the first call, which asks for another page. -/
theorem searchWithPaging_fuel_sample :
    ∃ run, searchWithPaging sampleConn sampleServer 1 sampleRequest 2 = .ok run ∧
      (run.finished = true → ∀ more,
        searchWithPaging sampleConn sampleServer (1 + more) sampleRequest 2 = .ok run) ∧
      (run.finished = false →
        run.calls.length = 1 ∧ ∀ call ∈ run.calls, ∃ next, call.Continues next) :=
  ⟨_, rfl, searchWithPaging_fuel rfl⟩

/-! ## The caller's request -/

/-- The last request of a trace is the start with a cookie at the slot. -/
theorem Trace.last_request {start : SearchRequest} {position : ℕ} {pagingSize : UInt32}
    {calls : List Call} {request : SearchRequest} (trace : Trace start position pagingSize calls)
    (last : calls.getLast?.map (·.request) = some request) :
    ∃ cookie, request = start.withPaging position pagingSize cookie := by
  obtain ⟨call, isLast, sent⟩ := Option.map_eq_some'.mp last
  obtain ⟨cookie, carried⟩ := trace.sized call (List.mem_of_mem_getLast? isLast)
  exact ⟨cookie, sent ▸ carried⟩

section Request

variable {conn : Conn} {server : Server}

/-- Whatever the run, `SearchWithPaging` changes the caller's request in one place: the cookie
of the paging control it uses, the first of its type, which it appends with an empty cookie when
there is none. -/
theorem searchWithPaging_request {fuel : ℕ} {request : SearchRequest} {pagingSize : UInt32}
    (fits : ∀ control, findControl request.controls controlTypePaging = some control →
      ∃ cookie, control = .paging pagingSize cookie)
    {run : Paged} (ran : searchWithPaging conn server fuel request pagingSize = .ok run) :
    ∃ cookie, run.request = (firstRequest request pagingSize).withPaging
      ((firstRequest request pagingSize).controls.findIdx (·.controlType = controlTypePaging))
      pagingSize cookie := by
  obtain ⟨position, cookie, slot, holds, runs⟩ := searchWithPaging_eq_pagingRun fits
  rw [slot.1]
  rw [runs, pagingRun] at ran
  obtain ⟨pass, looped, ran⟩ := except_bind_eq_ok.mp ran
  have ended := (looping_start holds).loop slot fuel looped
  cases pass with
  | next state =>
    cases ran
    exact ended.current
  | broke state =>
    obtain ⟨trace, pointer, -, last, -⟩ := ended
    simp only [pagingAbandon, pointer] at ran
    cases ran
    exact trace.last_request last
  | returned state err =>
    cases ran
    exact ended.1.last_request ended.2.2.1

end Request

/-- `sampleRequest` has no paging control, so no page size is refused. -/
theorem sampleRequest_fits (pagingSize : UInt32) :
    ∀ control, findControl sampleRequest.controls controlTypePaging = some control →
      ∃ cookie, control = .paging pagingSize cookie :=
  fun _ found => by cases found

/-- The sample search leaves the first request with a paging control in the slot it was added at. -/
theorem searchWithPaging_request_sample :
    (∀ control, findControl sampleRequest.controls controlTypePaging = some control →
      ∃ cookie, control = .paging 2 cookie) ∧
    ∃ run, searchWithPaging sampleConn sampleServer 3 sampleRequest 2 = .ok run ∧
      ∃ cookie, run.request = (firstRequest sampleRequest 2).withPaging
        ((firstRequest sampleRequest 2).controls.findIdx (·.controlType = controlTypePaging))
        2 cookie :=
  ⟨sampleRequest_fits 2, _, rfl,
    @searchWithPaging_request sampleConn sampleServer 3 sampleRequest 2 (sampleRequest_fits 2) _
      rfl⟩

/-! ## A server that pages out a result -/

/-- The server answers every request carrying the paging cookie `cookie` so that `Search`
returns `page` without error, whatever was sent before. -/
def Server.Answers (conn : Conn) (server : Server) (cookie : List UInt8)
    (page : SearchResult) : Prop :=
  ∀ history request, pagingCookie request.controls = some cookie →
    search conn (server.answer history request) = .ok (some page, none)

/-- The server pages out `pages` from the request carrying `cookie`: it answers that request
with the first page; each page but the last carries a non-empty cookie, from which the server
pages out the rest; the last carries no paging control, or one with an empty cookie. -/
def Server.Serves (conn : Conn) (server : Server) : List UInt8 → List SearchResult → Prop
  | _, [] => False
  | cookie, [page] => server.Answers conn cookie page ∧
      (findControl page.controls controlTypePaging = none ∨ pagingCookie page.controls = some [])
  | cookie, page :: rest@(_ :: _) => server.Answers conn cookie page ∧
      ∃ next, next ≠ [] ∧ pagingCookie page.controls = some next ∧ server.Serves conn next rest

/-- The paging control the cookie of a list of controls comes from. -/
theorem findControl_of_pagingCookie {controls : List Control} {cookie : List UInt8}
    (carried : pagingCookie controls = some cookie) :
    ∃ pagingSize, findControl controls controlTypePaging = some (.paging pagingSize cookie) := by
  unfold pagingCookie at carried
  split at carried
  · cases carried
    exact ⟨_, ‹_›⟩
  · cases carried

section Pages

variable {conn : Conn} {server : Server}

/-- A pass whose `Search` returns a page without error that carries no paging control, or one
with an empty cookie, breaks with the page buffered and the call recorded. -/
theorem pagingPass_last {state : Paging} {page : SearchResult}
    (answered : search conn (server.answer (state.calls.map (·.request)) state.request) =
      .ok (some page, none))
    (last : findControl page.controls controlTypePaging = none ∨
      pagingCookie page.controls = some []) :
    pagingPass conn server state = .ok (.broke ⟨state.request, none,
      state.searchResult ++ page, state.calls ++ [⟨state.request, some page, none⟩]⟩) := by
  rcases last with missing | empty
  · simp [pagingPass, Paging.search, answered, missing, except_pure]
  · obtain ⟨pagingSize, found⟩ := findControl_of_pagingCookie empty
    simp [pagingPass, Paging.search, answered, found, Control.assertCookie, except_pure]

/-- A pass whose `Search` returns a page without error with a non-empty cookie goes on, with
the cookie set in the control the pointer points to. -/
theorem pagingPass_next {state : Paging} {page : SearchResult} {cookie : List UInt8}
    {position : ℕ}
    (answered : search conn (server.answer (state.calls.map (·.request)) state.request) =
      .ok (some page, none))
    (pointer : state.pagingControl = some position)
    (carried : pagingCookie page.controls = some cookie) (nonempty : cookie ≠ []) :
    pagingPass conn server state = .ok (.next ⟨{ state.request with
        controls := state.request.controls.modify (Control.setCookie cookie) position },
      some position, state.searchResult ++ page,
      state.calls ++ [⟨state.request, some page, none⟩]⟩) := by
  obtain ⟨pagingSize, found⟩ := findControl_of_pagingCookie carried
  simp [pagingPass, Paging.search, answered, found, Control.assertCookie, nonempty,
    Paging.update, pointer]

end Pages

section Serves

variable {conn : Conn} {server : Server}

/-- From a state at a slot whose request carries `cookie`, a loop with a pass for each page the
server pages out from `cookie` records one call per page, each answered by its page, and
breaks with the pages buffered in order. -/
theorem pagingLoop_serves {start : SearchRequest} {position : ℕ} {pagingSize : UInt32}
    (slot : PagingSlot start position) {pages : List SearchResult} {cookie : List UInt8}
    (serves : server.Serves conn cookie pages) {fuel : ℕ} (enough : pages.length ≤ fuel)
    (state : Paging) (current : state.request = start.withPaging position pagingSize cookie)
    (pointer : state.pagingControl = some position) :
    ∃ state', pagingLoop conn server fuel state = .ok (.broke state') ∧
      state'.pagingControl = none ∧
      state'.searchResult = state.searchResult ++ joined pages ∧
      state'.calls.map (·.result) = state.calls.map (·.result) ++ pages.map some := by
  induction pages generalizing cookie state fuel with
  | nil => simp [Server.Serves] at serves
  | cons page rest ih =>
    obtain ⟨passes, rfl⟩ : ∃ passes, fuel = passes + 1 :=
      ⟨fuel - 1, by simp only [List.length_cons] at enough; omega⟩
    have answered (served : server.Answers conn cookie page) :=
      served (state.calls.map (·.request)) state.request
        (by rw [current]; exact pagingCookie_withPaging slot ..)
    cases rest with
    | nil =>
      unfold Server.Serves at serves
      obtain ⟨served, last⟩ := serves
      refine ⟨⟨state.request, none, state.searchResult ++ page,
        state.calls ++ [⟨state.request, some page, none⟩]⟩, ?_, rfl, by simp, by simp⟩
      simp [pagingLoop, pagingPass_last (answered served) last, except_pure]
    | cons next more =>
      unfold Server.Serves at serves
      obtain ⟨served, cookie', nonempty, carried, serves'⟩ := serves
      have current' : ({ state.request with
          controls := state.request.controls.modify (Control.setCookie cookie') position } :
            SearchRequest) = start.withPaging position pagingSize cookie' := by
        rw [current]
        exact withPaging_setCookie ..
      obtain ⟨state', looped, stopped, buffered, results⟩ := ih serves' (by simpa using enough)
        ⟨_, some position, state.searchResult ++ page,
          state.calls ++ [⟨state.request, some page, none⟩]⟩ current' rfl
      refine ⟨state', ?_, stopped, by simp [buffered, SearchResult.append_assoc],
        by simp [results]⟩
      simp [pagingLoop, pagingPass_next (answered served) pointer carried nonempty, looped]

/-- Against a server that pages out `pages` from the cookie of the first request,
`SearchWithPaging` given a pass per page sends one request per page, each answered by its page
in order, and returns all the pages joined, without error: no page is lost or fetched twice. -/
theorem searchWithPaging_serves {fuel : ℕ} {request : SearchRequest} {pagingSize : UInt32}
    {cookie : List UInt8} {pages : List SearchResult}
    (fits : ∀ control, findControl request.controls controlTypePaging = some control →
      ∃ cookie, control = .paging pagingSize cookie)
    (first : pagingCookie (firstRequest request pagingSize).controls = some cookie)
    (serves : server.Serves conn cookie pages) (enough : pages.length ≤ fuel) :
    ∃ request' calls, searchWithPaging conn server fuel request pagingSize =
        .ok ⟨request', calls, some (joined pages), none, true⟩ ∧
      calls.map (·.result) = pages.map some := by
  obtain ⟨position, opening, slot, holds, runs⟩ := searchWithPaging_eq_pagingRun fits
  have unchanged := withPaging_self holds
  have opened := pagingCookie_withPaging slot pagingSize opening
  rw [unchanged, first, Option.some.injEq] at opened
  subst opened
  obtain ⟨state', looped, stopped, buffered, results⟩ :=
    pagingLoop_serves slot serves enough ⟨firstRequest request pagingSize, some position, {}, []⟩
      unchanged.symm rfl
  refine ⟨state'.request, state'.calls, ?_, by simpa using results⟩
  rw [runs, pagingRun, looped, except_ok_bind]
  simp [pagingAbandon, stopped, Paging.returns, buffered, except_pure]

end Serves

/-- The two pages `sampleServer` answers, as `Search` returns them on `sampleConn`. -/
def samplePages : List SearchResult :=
  [{ entries := [⟨.ofString "cn=a", []⟩], controls := [.paging 0 [107]] },
    { entries := [⟨.ofString "cn=b", []⟩], controls := [.paging 0 []] }]

/-- `sampleServer` serves the two sample pages from an empty history. -/
theorem sampleServer_serves : sampleServer.Serves sampleConn [] samplePages := by
  simp only [samplePages, Server.Serves]
  refine ⟨fun history request opening => ?_, [107], by decide, rfl,
    fun history request carried => ?_, .inr rfl⟩
  · simp only [sampleServer, opening]
    rfl
  · simp only [sampleServer, carried]
    rfl

/-- Two passes of the sample search collect the two sample pages. -/
theorem searchWithPaging_serves_sample :
    (∀ control, findControl sampleRequest.controls controlTypePaging = some control →
      ∃ cookie, control = .paging 2 cookie) ∧
    pagingCookie (firstRequest sampleRequest 2).controls = some [] ∧
    sampleServer.Serves sampleConn [] samplePages ∧ samplePages.length ≤ 2 ∧
    ∃ request' calls, searchWithPaging sampleConn sampleServer 2 sampleRequest 2 =
        .ok ⟨request', calls, some (joined samplePages), none, true⟩ ∧
      calls.map (·.result) = samplePages.map some :=
  ⟨sampleRequest_fits 2, rfl, sampleServer_serves, by decide,
    searchWithPaging_serves (sampleRequest_fits 2) rfl sampleServer_serves (by decide)⟩

/-! ## No panic of its own -/

section Panics

variable {conn : Conn} {server : Server}

/-- A control of the paging type in a result of `Search` is a paging control: the registry
decodes the paging OID to one. -/
theorem findControl_search {answer : Answer} {result : SearchResult} {err : Option Error}
    (searched : search conn answer = .ok (some result, err)) {control : Control}
    (found : findControl result.controls controlTypePaging = some control) :
    ∃ pagingSize cookie, control = .paging pagingSize cookie := by
  obtain ⟨child, decoded⟩ :=
    search_controls_decoded searched control (List.mem_of_find?_eq_some found)
  exact conn.decodeControl_paging child control decoded (by simpa using List.find?_some found)

/-- A pass with `pagingControl` set panics only where its `Search` panics: the type assertion
of line 456 holds of the page's paging control, and the write through the pointer succeeds. -/
theorem pagingPass_panics {state : Paging} {position : ℕ}
    (pointer : state.pagingControl = some position) {failure : Panic}
    (panicked : pagingPass conn server state = .error failure) :
    search conn (server.answer (state.calls.map (·.request)) state.request) = .error failure := by
  unfold pagingPass Paging.search at panicked
  cases searched : search conn (server.answer (state.calls.map (·.request)) state.request) with
  | error failed => simpa [searched] using panicked
  | ok outcome =>
    obtain ⟨result, err⟩ := outcome
    exfalso
    simp only [searched, except_ok_bind, pure_bind] at panicked
    rcases err with _ | err
    · rcases result with _ | page
      · cases panicked
      · cases found : findControl page.controls controlTypePaging with
        | none => simp [found, except_pure] at panicked
        | some control =>
          obtain ⟨size, cookie, rfl⟩ := findControl_search searched found
          by_cases empty : cookie = [] <;>
            simp [found, Control.assertCookie, empty, Paging.update, pointer, except_pure]
              at panicked
    · cases panicked

/-- A run of the loop from a state of the loop panics only where one of its `Search` calls
panics. -/
theorem pagingLoop_panics {start : SearchRequest} {position : ℕ} {pagingSize : UInt32}
    (slot : PagingSlot start position) {fuel : ℕ} {state : Paging}
    (looping : Looping start position pagingSize state) {failure : Panic}
    (panicked : pagingLoop conn server fuel state = .error failure) :
    ∃ history request, search conn (server.answer history request) = .error failure := by
  induction fuel generalizing state with
  | zero => cases panicked
  | succ fuel ih =>
    simp only [pagingLoop] at panicked
    cases passed : pagingPass conn server state with
    | error failed =>
      rw [passed] at panicked
      cases panicked
      exact ⟨_, _, pagingPass_panics looping.pointer passed⟩
    | ok pass =>
      rw [passed, except_ok_bind] at panicked
      cases pass with
      | next state' => exact ih (looping.pass slot passed) panicked
      | broke _ | returned _ _ => cases panicked

/-- `SearchWithPaging` raises no panic of its own. The type assertion of line 456 holds, since
the registry decodes the paging OID to a paging control, and every write through
`pagingControl` finds it set; so every panic it raises is one `Search` raised on an answer of
the server. -/
theorem searchWithPaging_panics_in_search (fuel : ℕ) (request : SearchRequest)
    (pagingSize : UInt32) {failure : Panic}
    (panicked : searchWithPaging conn server fuel request pagingSize = .error failure) :
    ∃ history request', search conn (server.answer history request') = .error failure := by
  rcases searchWithPaging_cases request pagingSize with
    ⟨control, found, other⟩ | ⟨position, cookie, slot, holds, runs⟩
  · obtain ⟨err, refused⟩ := searchWithPaging_refused found other conn server fuel
    rw [refused] at panicked
    cases panicked
  · rw [runs, pagingRun] at panicked
    cases looped : pagingLoop conn server fuel ⟨firstRequest request pagingSize, some position,
      {}, []⟩ with
    | error failed =>
      rw [looped] at panicked
      cases panicked
      exact pagingLoop_panics slot (looping_start holds) looped
    | ok pass =>
      have ended := (looping_start holds).loop slot fuel looped
      rw [looped, except_ok_bind] at panicked
      cases pass with
      | next _ | returned _ _ => cases panicked
      | broke state =>
        simp only [pagingAbandon, ended.2.1] at panicked
        cases panicked

end Panics

/-- A server whose every answer is one packet without a protocol operation. -/
def shortServer : Server := ⟨fun _ _ => .ok [.ok ⟨16, .nil, [], [⟨2, .int64 1, [], []⟩]⟩]⟩

/-- On a server that answers a packet without a protocol operation, `SearchWithPaging` panics
where `Search` does, at `Children[1]`. -/
theorem searchWithPaging_panics_in_search_sample :
    searchWithPaging sampleConn shortServer 1 sampleRequest 2 = .error .indexOutOfRange ∧
    ∃ history request', search sampleConn (shortServer.answer history request') =
      .error .indexOutOfRange :=
  ⟨rfl, searchWithPaging_panics_in_search 1 sampleRequest 2 rfl⟩

end Ldap
