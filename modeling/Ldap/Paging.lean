import Mathlib.Data.List.Chain
import Ldap.Search

/-!
# The paging helper

`Conn.SearchWithPaging` appends a paging control to the caller's request, or checks the one it
finds, and calls `Search` page after page, copying each returned cookie into that control. The
control is a `*ControlPaging` shared with the request, so the helper's writes through
`pagingControl` change the caller's request: the model keeps `pagingControl` as the position
of the control in `searchRequest.Controls`, and a write through it as an update of that
position. Each call of `Search` gets the server's answer to the request as it stands.

The loop need not end, so it runs on fuel; a run that used up its fuel says so. The results
are stated for every fuel, so they cover every finite prefix of a run that never ends.
-/

namespace Ldap

/-- A directory server as the helper meets it: the answer to each request it is sent, given
the requests the helper sent before it, oldest first. -/
structure Server where
  answer : List SearchRequest → SearchRequest → Answer

/-- One call of `Search` by the helper: the request as sent, and what `Search` returned. -/
structure Call where
  request : SearchRequest
  result : Option SearchResult
  err : Option Error
  deriving DecidableEq, Repr

/-- Modelled from the spec: `NewControlPaging` (control.go, not under `src/`) allocates a
paging control of the given size with an empty cookie. -/
def newControlPaging (pagingSize : UInt32) : Control := .paging pagingSize []

/-- `(*ControlPaging).SetCookie`, on the control `pagingControl` points to. -/
def Control.setCookie (cookie : List UInt8) : Control → Control
  | .paging pagingSize _ => .paging pagingSize cookie
  | control => control

/-- `pagingControl.PagingSize = size`, on the control `pagingControl` points to. -/
def Control.setPagingSize (pagingSize : UInt32) : Control → Control
  | .paging _ cookie => .paging pagingSize cookie
  | control => control

/-- `control.(*ControlPaging).Cookie`: the cookie, or Go's failed type assertion. -/
def Control.assertCookie : Control → Except Panic (List UInt8)
  | .paging _ cookie => .ok cookie
  | .other _ => .error .typeAssertion

/-- The error of line 441. -/
def packetNotReceived : Error := .coded .errorNetwork "ldap: packet not received"

/-- The variables of `SearchWithPaging` around its loop, with the calls made so far. -/
structure Paging where
  /-- `searchRequest`, as the helper has changed it. -/
  request : SearchRequest
  /-- `pagingControl`: the position in `request.controls` of the control it points to, or
  nil. -/
  pagingControl : Option ℕ
  /-- `searchResult`, the pages buffered so far. -/
  searchResult : SearchResult
  /-- The calls of `Search` so far, in order. -/
  calls : List Call

/-- `l.Search(searchRequest)`, recorded as a call. -/
def Paging.search (conn : Conn) (server : Server) (state : Paging) :
    Except Panic (Paging × Call) := do
  let (result, err) ←
    Ldap.search conn (server.answer (state.calls.map (·.request)) state.request)
  let call : Call := ⟨state.request, result, err⟩
  pure ({ state with calls := state.calls ++ [call] }, call)

/-- A write through `pagingControl`; Go's nil dereference when it is nil. -/
def Paging.update (state : Paging) (change : Control → Control) : Except Panic Paging :=
  match state.pagingControl with
  | some position =>
    .ok { state with request :=
      { state.request with controls := state.request.controls.modify change position } }
  | none => .error .nilDereference

/-- Where one pass of the loop leaves the helper. -/
inductive Pass where
  /-- On to the next page, with the cookie copied into the control. -/
  | next (state : Paging)
  /-- Out of the loop by a `break` (lines 453 and 460). -/
  | broke (state : Paging)
  /-- A return from inside the loop (lines 438 and 441). -/
  | returned (state : Paging) (err : Error)

/-- The state of the helper after a pass. -/
def Pass.state : Pass → Paging
  | .next state | .broke state | .returned state _ => state

/-- One pass of the loop of `SearchWithPaging` (lines 435-462). -/
def pagingPass (conn : Conn) (server : Server) (state : Paging) : Except Panic Pass := do
  let (state, call) ← state.search conn server
  match call.err, call.result with
  | some err, _ => pure (.returned state err)
  | none, none => pure (.returned state packetNotReceived)
  | none, some result =>
    let state := { state with searchResult := state.searchResult ++ result }
    match findControl result.controls controlTypePaging with
    | none => pure (.broke { state with pagingControl := none })
    | some pagingResult =>
      let cookie ← pagingResult.assertCookie
      if cookie.isEmpty then pure (.broke { state with pagingControl := none })
      else .next <$> state.update (Control.setCookie cookie)

/-- The loop of `SearchWithPaging` (lines 434-463) for at most `fuel` passes; `next` when the
fuel ran out with the loop still going. -/
def pagingLoop (conn : Conn) (server : Server) : ℕ → Paging → Except Panic Pass
  | 0, state => pure (.next state)
  | fuel + 1, state => do
    match ← pagingPass conn server state with
    | .next state => pagingLoop conn server fuel state
    | pass => pure pass

/-- What `SearchWithPaging` did: the request as it left it, the calls of `Search` it made, and
what it returned. `finished` is false when the fuel ran out with the loop still going. -/
structure Paged where
  request : SearchRequest
  calls : List Call
  result : Option SearchResult
  err : Option Error
  finished : Bool
  deriving DecidableEq, Repr

/-- The helper returning from `state`. -/
def Paging.returns (state : Paging) (err : Option Error) : Paged :=
  ⟨state.request, state.calls, some state.searchResult, err, true⟩

/-- Lines 465-473, after the loop: abandon the paged search when `pagingControl` is not nil. -/
def pagingAbandon (conn : Conn) (server : Server) (state : Paging) : Except Panic Paged := do
  match state.pagingControl with
  | none => pure (state.returns none)
  | some _ =>
    let state ← state.update (Control.setPagingSize 0)
    let (state, call) ← state.search conn server
    pure (state.returns call.err)

/-- Lines 433-473, from the request and the position of its paging control. -/
def pagingRun (conn : Conn) (server : Server) (fuel : ℕ) (request : SearchRequest)
    (position : ℕ) : Except Panic Paged := do
  match ← pagingLoop conn server fuel ⟨request, some position, {}, []⟩ with
  | .next state => pure ⟨state.request, state.calls, none, none, false⟩
  | .broke state => pagingAbandon conn server state
  | .returned state err => pure (state.returns (some err))

/-- `Conn.SearchWithPaging` (lines 415-474). The control `FindControl` returns is the first of
the paging type, so `pagingControl` points to that position. -/
def searchWithPaging (conn : Conn) (server : Server) (fuel : ℕ) (searchRequest : SearchRequest)
    (pagingSize : UInt32) : Except Panic Paged :=
  match findControl searchRequest.controls controlTypePaging with
  | none =>
    pagingRun conn server fuel
      { searchRequest with controls := searchRequest.controls ++ [newControlPaging pagingSize] }
      searchRequest.controls.length
  | some (.paging size _) =>
    if size ≠ pagingSize then
      pure ⟨searchRequest, [], none, some (.formatted
        "paging size given in search request (%d) conflicts with size given in search call (%d)"
        [.number size.toNat, .number pagingSize.toNat]), true⟩
    else
      pagingRun conn server fuel searchRequest
        (searchRequest.controls.findIdx (·.controlType = controlTypePaging))
  | some control =>
    pure ⟨searchRequest, [], none, some (.formatted
      "expected paging control to be of type *ControlPaging, got %v" [.control control]), true⟩

/-! ## The paging control in the request -/

section Lists

variable {α : Type} (p : α → Bool)

/-- Setting the first element a test holds of to another it holds of makes that one found. -/
theorem find?_set_findIdx {xs : List α} {x : α} (holds : p x)
    (inside : xs.findIdx p < xs.length) : (xs.set (xs.findIdx p) x).find? p = some x := by
  induction xs with
  | nil => simp at inside
  | cons y xs ih =>
    cases first : p y
    · simp only [List.findIdx_cons, first, cond_false, List.length_cons,
        Nat.add_lt_add_iff_right] at inside
      simp [List.findIdx_cons, first, ih inside]
    · simp [List.findIdx_cons, first, holds]

/-- The element `find?` returns sits where `findIdx` points. -/
theorem getElem?_findIdx_of_find? {xs : List α} {x : α} (found : xs.find? p = some x) :
    xs.findIdx p < xs.length ∧ xs[xs.findIdx p]? = some x := by
  induction xs with
  | nil => cases found
  | cons y xs ih =>
    cases first : p y
    · simp only [List.find?_cons, first] at found
      simpa [List.findIdx_cons, first] using ih found
    · simp only [List.find?_cons, first, Option.some.injEq] at found
      subst found
      simp [List.findIdx_cons, first]

/-- Changing an element of a list that was set there is setting the changed element. -/
theorem modify_set (f : α → α) (xs : List α) (i : ℕ) (x : α) :
    (xs.set i x).modify f i = xs.set i (f x) := by
  apply List.ext_getElem?
  intro j
  rw [List.getElem?_modify, List.getElem?_set, List.getElem?_set]
  by_cases same : i = j <;> by_cases inside : i < xs.length <;> simp [same, inside]

end Lists

/-- `position` is where the first control of the paging type sits in `request`. -/
def PagingSlot (request : SearchRequest) (position : ℕ) : Prop :=
  request.controls.findIdx (·.controlType = controlTypePaging) = position ∧
    position < request.controls.length

/-- The request with its control at `position` a paging control of size `pagingSize` and
cookie `cookie`. -/
def SearchRequest.withPaging (request : SearchRequest) (position : ℕ) (pagingSize : UInt32)
    (cookie : List UInt8) : SearchRequest :=
  { request with controls := request.controls.set position (.paging pagingSize cookie) }

/-- The cookie of the paging control in a list of controls, as `FindControl` finds it. -/
def pagingCookie (controls : List Control) : Option (List UInt8) :=
  match findControl controls controlTypePaging with
  | some (.paging _ cookie) => some cookie
  | _ => none

section Slot

variable {start : SearchRequest} {position : ℕ} (slot : PagingSlot start position)
include slot

/-- The control at the slot is the one `FindControl` finds. -/
theorem findControl_withPaging (pagingSize : UInt32) (cookie : List UInt8) :
    findControl (start.withPaging position pagingSize cookie).controls controlTypePaging =
      some (.paging pagingSize cookie) := by
  obtain ⟨first, inside⟩ := slot
  subst first
  exact find?_set_findIdx _ (by simp [Control.controlType]) inside

/-- The cookie at the slot is the request's paging cookie. -/
theorem pagingCookie_withPaging (pagingSize : UInt32) (cookie : List UInt8) :
    pagingCookie (start.withPaging position pagingSize cookie).controls = some cookie := by
  simp [pagingCookie, findControl_withPaging slot]

end Slot

/-- `SetCookie` through the pointer to the slot sets the slot's cookie. -/
theorem withPaging_setCookie (start : SearchRequest) (position : ℕ) (pagingSize : UInt32)
    (cookie cookie' : List UInt8) :
    { start.withPaging position pagingSize cookie with
      controls := (start.withPaging position pagingSize cookie).controls.modify
        (Control.setCookie cookie') position } = start.withPaging position pagingSize cookie' := by
  simp [SearchRequest.withPaging, modify_set, Control.setCookie]

/-- A request whose slot already holds that control is unchanged by setting it. -/
theorem withPaging_self {start : SearchRequest} {position : ℕ} {pagingSize : UInt32}
    {cookie : List UInt8} (holds : start.controls[position]? = some (.paging pagingSize cookie)) :
    start.withPaging position pagingSize cookie = start := by
  have same : start.controls.set position (.paging pagingSize cookie) = start.controls := by
    apply List.ext_getElem?
    intro other
    rw [List.getElem?_set]
    by_cases here : position = other
    · subst here
      obtain ⟨inside, _⟩ := List.getElem?_eq_some_iff.mp holds
      simp [inside, holds]
    · simp [here]
  simp [SearchRequest.withPaging, same]

/-! ## One pass of the loop -/

/-- Everything one pass of the loop can do. It calls `Search` on the request as it stands and
records the call. Then it returns on an error or a missing result; or it leaves the loop when
the page has no paging control or an empty cookie; or it copies the page's cookie into the
control `pagingControl` points to and goes on. -/
theorem pagingPass_cases {conn : Conn} {server : Server} {state : Paging} {pass : Pass}
    (passed : pagingPass conn server state = .ok pass) :
    ∃ result err,
      search conn (server.answer (state.calls.map (·.request)) state.request) =
        .ok (result, err) ∧
      ((∃ failure,
          (err = some failure ∨ err = none ∧ result = none ∧ failure = packetNotReceived) ∧
          pass = .returned
            { state with calls := state.calls ++ [⟨state.request, result, err⟩] } failure) ∨
        (∃ page, err = none ∧ result = some page ∧
          (pagingCookie page.controls = none ∨ pagingCookie page.controls = some []) ∧
          pass = .broke ⟨state.request, none, state.searchResult ++ page,
            state.calls ++ [⟨state.request, result, err⟩]⟩) ∨
        (∃ page cookie position, err = none ∧ result = some page ∧
          pagingCookie page.controls = some cookie ∧ cookie ≠ [] ∧
          state.pagingControl = some position ∧
          pass = .next ⟨{ state.request with
              controls := state.request.controls.modify (Control.setCookie cookie) position },
            some position, state.searchResult ++ page,
            state.calls ++ [⟨state.request, result, err⟩]⟩)) := by
  unfold pagingPass Paging.search at passed
  cases searched : search conn (server.answer (state.calls.map (·.request)) state.request) with
  | error failure => simp [searched] at passed
  | ok outcome =>
    obtain ⟨result, err⟩ := outcome
    refine ⟨result, err, rfl, ?_⟩
    simp only [searched, except_ok_bind, pure_bind] at passed
    cases err with
    | some failure => exact .inl ⟨failure, .inl rfl, (Except.ok.inj passed).symm⟩
    | none =>
      cases result with
      | none =>
        exact .inl ⟨packetNotReceived, .inr ⟨rfl, rfl, rfl⟩, (Except.ok.inj passed).symm⟩
      | some page =>
        right
        cases found : findControl page.controls controlTypePaging with
        | none =>
          simp only [found] at passed
          exact .inl ⟨page, rfl, rfl, .inl (by simp [pagingCookie, found]),
            (Except.ok.inj passed).symm⟩
        | some control =>
          cases control with
          | other controlType => simp [found, Control.assertCookie] at passed
          | paging size cookie =>
            simp only [found, Control.assertCookie, except_ok_bind] at passed
            by_cases empty : cookie = []
            · subst empty
              exact .inl ⟨page, rfl, rfl, .inr (by simp [pagingCookie, found]),
                (Except.ok.inj passed).symm⟩
            · cases pointer : state.pagingControl with
              | none => simp [empty, Paging.update, pointer] at passed
              | some position =>
                simp [empty, Paging.update, pointer] at passed
                exact .inr ⟨page, cookie, position, rfl, rfl, by simp [pagingCookie, found],
                  empty, rfl, passed.symm⟩

/-! ## Runs of the loop -/

/-- A call went on to the next page: it returned a page without error whose paging control
has a non-empty cookie, and the next request carries that cookie. -/
def Call.Continues (call : Call) (next : SearchRequest) : Prop :=
  call.err = none ∧ ∃ page cookie, call.result = some page ∧
    pagingCookie page.controls = some cookie ∧ cookie ≠ [] ∧
      pagingCookie next.controls = some cookie

/-- A call after which the loop stops: it returned an error, or no result, or a page whose
paging control is missing or has an empty cookie. -/
def Call.Stops (call : Call) : Prop :=
  call.err ≠ none ∨ call.result = none ∨
    ∃ page, call.result = some page ∧
      (pagingCookie page.controls = none ∨ pagingCookie page.controls = some [])

/-- Calls each made by `Search` on the server's answer to its request, given the requests sent
before it. -/
inductive Searched (conn : Conn) (server : Server) : List Call → Prop
  /-- No call yet. -/
  | nil : Searched conn server []
  /-- One more call, of `Search` on the server's answer to its request. -/
  | call {calls : List Call} {request : SearchRequest} {result : Option SearchResult}
      {err : Option Error} : Searched conn server calls →
      search conn (server.answer (calls.map (·.request)) request) = .ok (result, err) →
      Searched conn server (calls ++ [⟨request, result, err⟩])

/-- What the calls of a run of the loop from `start` have done: each sent `start` with its slot
holding a paging control of size `pagingSize`, the first sent `start` itself, and each but the
last went on to the next. -/
structure Trace (start : SearchRequest) (position : ℕ) (pagingSize : UInt32)
    (calls : List Call) : Prop where
  sized : ∀ call ∈ calls, ∃ cookie, call.request = start.withPaging position pagingSize cookie
  first : ∀ call ∈ calls.head?, call.request = start
  chained : calls.Chain' fun call next => call.Continues next.request

/-- The state of the loop at the start of every pass from `start`. -/
structure Looping (start : SearchRequest) (position : ℕ) (pagingSize : UInt32)
    (state : Paging) : Prop where
  trace : Trace start position pagingSize state.calls
  pointer : state.pagingControl = some position
  current : ∃ cookie, state.request = start.withPaging position pagingSize cookie
  fresh : state.calls = [] → state.request = start
  pending : ∀ call ∈ state.calls.getLast?, call.Continues state.request
  buffered : state.searchResult = joined (state.calls.filterMap (·.result))

section Run

variable {start : SearchRequest} {position : ℕ} {pagingSize : UInt32}

/-- A call of the request the loop stands at extends its trace. -/
theorem Looping.trace_call {state : Paging} (looping : Looping start position pagingSize state)
    (result : Option SearchResult) (err : Option Error) :
    Trace start position pagingSize (state.calls ++ [⟨state.request, result, err⟩]) where
  sized call member := by
    rcases List.mem_append.mp member with earlier | last
    · exact looping.trace.sized call earlier
    · rw [List.mem_singleton.mp last]
      exact looping.current
  first call member := by
    cases calls : state.calls with
    | nil =>
      simp only [calls, looping.fresh calls, List.nil_append, List.head?_cons, Option.mem_def,
        Option.some.injEq] at member
      rw [← member]
    | cons head tail => exact looping.trace.first call (by simpa [calls] using member)
  chained := looping.trace.chained.append (List.chain'_singleton _)
    fun last isLast next isNext => by
    simp only [List.head?_cons, Option.mem_def, Option.some.injEq] at isNext
    rw [← isNext]
    exact looping.pending last isLast

/-- What holds where the loop stops: still going when the fuel ran out; out of it by a
`break` after a page without a non-empty cookie, with `pagingControl` nil and every page
buffered; or returning an error from the last call, with only the pages before it buffered.
Each time the request is the last one sent. -/
def LoopEnd (start : SearchRequest) (position : ℕ) (pagingSize : UInt32) : Pass → Prop
  | .next state => Looping start position pagingSize state
  | .broke state => Trace start position pagingSize state.calls ∧ state.pagingControl = none ∧
      state.searchResult = joined (state.calls.filterMap (·.result)) ∧
      state.calls.getLast?.map (·.request) = some state.request ∧
      ∀ call ∈ state.calls.getLast?, call.Stops
  | .returned state err => Trace start position pagingSize state.calls ∧
      state.searchResult = joined (state.calls.dropLast.filterMap (·.result)) ∧
      state.calls.getLast?.map (·.request) = some state.request ∧
      ∀ call ∈ state.calls.getLast?,
        call.err = some err ∨ call.err = none ∧ call.result = none ∧ err = packetNotReceived

/-- One pass from a state of the loop ends where the loop may stop. -/
theorem Looping.pass {conn : Conn} {server : Server} (slot : PagingSlot start position)
    {state : Paging} (looping : Looping start position pagingSize state) {pass : Pass}
    (passed : pagingPass conn server state = .ok pass) :
    LoopEnd start position pagingSize pass := by
  obtain ⟨result, err, -, cases⟩ := pagingPass_cases passed
  rcases cases with ⟨failure, failed, rfl⟩ | ⟨page, rfl, rfl, last, rfl⟩ |
    ⟨page, cookie, position', rfl, rfl, found, nonempty, pointer, rfl⟩
  · refine ⟨looping.trace_call _ _, by simpa using looping.buffered, by simp, ?_⟩
    simpa using failed
  · exact ⟨looping.trace_call _ _, rfl, by simp [looping.buffered, joined_append], by simp,
      by simpa [Call.Stops] using last⟩
  · rw [looping.pointer, Option.some.injEq] at pointer
    subst pointer
    obtain ⟨previous, current⟩ := looping.current
    have request : { state.request with
        controls := state.request.controls.modify (Control.setCookie cookie) position } =
        start.withPaging position pagingSize cookie := by
      rw [current]
      exact withPaging_setCookie ..
    refine ⟨looping.trace_call _ _, rfl, ⟨cookie, request⟩, by simp, ?_,
      by simp [looping.buffered, joined_append]⟩
    simp only [List.getLast?_append, List.getLast?_singleton, Option.or_some, Option.mem_def,
      Option.some.injEq, forall_eq']
    exact ⟨rfl, page, cookie, rfl, found, nonempty,
      by rw [request]; exact pagingCookie_withPaging slot ..⟩

/-- Every run of the loop from a state of the loop ends where the loop may stop. -/
theorem Looping.loop {conn : Conn} {server : Server} (slot : PagingSlot start position)
    (fuel : ℕ) {state : Paging} (looping : Looping start position pagingSize state) {pass : Pass}
    (ran : pagingLoop conn server fuel state = .ok pass) :
    LoopEnd start position pagingSize pass := by
  induction fuel generalizing state with
  | zero =>
    cases ran
    exact looping
  | succ fuel ih =>
    simp only [pagingLoop] at ran
    cases passed : pagingPass conn server state with
    | error failure => simp [passed] at ran
    | ok first =>
      have ended := looping.pass slot passed
      rw [passed, except_ok_bind] at ran
      cases first with
      | next state' => exact ih ended ran
      | broke _ | returned _ _ => cases ran; exact ended

/-- The loop starts in a state of the loop. -/
theorem looping_start {cookie : List UInt8}
    (holds : start.controls[position]? = some (.paging pagingSize cookie)) :
    Looping start position pagingSize ⟨start, some position, {}, []⟩ where
  trace := ⟨by simp, by simp, List.chain'_nil⟩
  pointer := rfl
  current := ⟨cookie, (withPaging_self holds).symm⟩
  fresh _ := rfl
  pending := by simp
  buffered := rfl

/-- Each pass records its call of `Search` on the server's answer to the request. -/
theorem pagingPass_searched {conn : Conn} {server : Server} {state : Paging} {pass : Pass}
    (passed : pagingPass conn server state = .ok pass)
    (searched : Searched conn server state.calls) : Searched conn server pass.state.calls := by
  obtain ⟨result, err, answered, cases⟩ := pagingPass_cases passed
  rcases cases with ⟨_, _, rfl⟩ | ⟨_, -, -, -, rfl⟩ | ⟨_, _, _, -, -, -, -, -, rfl⟩ <;>
    exact searched.call answered

/-- Every run of the loop records each of its calls of `Search`. -/
theorem pagingLoop_searched {conn : Conn} {server : Server} {fuel : ℕ} {state : Paging}
    {pass : Pass} (ran : pagingLoop conn server fuel state = .ok pass)
    (searched : Searched conn server state.calls) : Searched conn server pass.state.calls := by
  induction fuel generalizing state with
  | zero =>
    cases ran
    exact searched
  | succ fuel ih =>
    simp only [pagingLoop] at ran
    obtain ⟨first, passed, ran⟩ := except_bind_eq_ok.mp ran
    have recorded := pagingPass_searched passed searched
    cases first with
    | next state' => exact ih ran recorded
    | broke _ | returned _ _ =>
      cases ran
      exact recorded

/-- Every run of the helper from a request whose slot holds a paging control of the requested
size: its calls follow the trace, each made by `Search` on the server's answer; when it returns,
the request is the last one it sent and that call brought no non-empty cookie; without error its
result is every page received, in order, and with an error the pages of the calls before the
last. -/
theorem pagingRun_ends {conn : Conn} {server : Server} {fuel : ℕ} {cookie : List UInt8}
    (slot : PagingSlot start position)
    (holds : start.controls[position]? = some (.paging pagingSize cookie)) {run : Paged}
    (ran : pagingRun conn server fuel start position = .ok run) :
    Trace start position pagingSize run.calls ∧
      (run.finished = true → run.calls.getLast?.map (·.request) = some run.request) ∧
      (run.finished = true → run.err = none →
        run.result = some (joined (run.calls.filterMap (·.result)))) ∧
      (∀ err, run.err = some err →
        run.result = some (joined (run.calls.dropLast.filterMap (·.result))) ∧
        ∀ call ∈ run.calls.getLast?, call.err = some err ∨
          call.err = none ∧ call.result = none ∧ err = packetNotReceived) ∧
      Searched conn server run.calls ∧
      (run.finished = true → ∃ last, run.calls.getLast? = some last ∧ last.Stops) := by
  unfold pagingRun at ran
  obtain ⟨pass, looped, ran⟩ := except_bind_eq_ok.mp ran
  have ended := (looping_start holds).loop slot fuel looped
  have searched := pagingLoop_searched looped .nil
  cases pass with
  | next state =>
    cases ran
    exact ⟨ended.trace, nofun, nofun, nofun, searched, nofun⟩
  | broke state =>
    obtain ⟨trace, pointer, buffered, last, stops⟩ := ended
    simp only [pagingAbandon, pointer] at ran
    cases ran
    obtain ⟨call, isLast, -⟩ := Option.map_eq_some'.mp last
    exact ⟨trace, fun _ => last, fun _ _ => by simp [Paging.returns, buffered], nofun, searched,
      fun _ => ⟨call, isLast, stops call isLast⟩⟩
  | returned state err =>
    obtain ⟨trace, buffered, last, failed⟩ := ended
    cases ran
    obtain ⟨call, isLast, -⟩ := Option.map_eq_some'.mp last
    refine ⟨trace, fun _ => last, nofun, fun _ returned => ⟨by simp [Paging.returns, buffered], ?_⟩,
      searched, fun _ => ⟨call, isLast, ?_⟩⟩
    · simp only [Paging.returns, Option.some.injEq] at returned
      exact returned ▸ failed
    · rcases failed call isLast with erred | ⟨-, missing, -⟩
      · exact .inl (by simp [erred])
      · exact .inr (.inl missing)

end Run

/-- With no paging control in the request, the one appended is the first of its type. -/
theorem pagingSlot_appended {request : SearchRequest}
    (missing : findControl request.controls controlTypePaging = none) (pagingSize : UInt32) :
    PagingSlot { request with controls := request.controls ++ [newControlPaging pagingSize] }
      request.controls.length := by
  refine ⟨?_, by simp⟩
  have none : request.controls.findIdx (·.controlType = controlTypePaging) =
      request.controls.length :=
    List.findIdx_eq_length_of_false (by simpa [findControl] using missing)
  rw [List.findIdx_append, none, if_neg (Nat.lt_irrefl _)]
  simp [List.findIdx_cons, newControlPaging, Control.controlType]

/-- The control `FindControl` finds sits at its slot. -/
theorem pagingSlot_found {request : SearchRequest} {control : Control}
    (found : findControl request.controls controlTypePaging = some control) :
    PagingSlot request (request.controls.findIdx (·.controlType = controlTypePaging)) ∧
      request.controls[request.controls.findIdx (·.controlType = controlTypePaging)]? =
        some control :=
  have ⟨inside, sits⟩ := getElem?_findIdx_of_find? _ found
  ⟨⟨rfl, inside⟩, sits⟩

/-- Each request of a run from a slot sends a paging control of the requested size as the
first of its type. -/
theorem Trace.found {start : SearchRequest} {position : ℕ} {pagingSize : UInt32}
    {calls : List Call} (slot : PagingSlot start position)
    (trace : Trace start position pagingSize calls) (call : Call) (member : call ∈ calls) :
    ∃ cookie, findControl call.request.controls controlTypePaging =
      some (.paging pagingSize cookie) :=
  have ⟨cookie, sent⟩ := trace.sized call member
  ⟨cookie, sent ▸ findControl_withPaging slot ..⟩

/-! ## The paging contract -/

/-- The request the helper's first call sends: the caller's, with a paging control of the
requested size and an empty cookie appended when it had none. -/
def firstRequest (request : SearchRequest) (pagingSize : UInt32) : SearchRequest :=
  if findControl request.controls controlTypePaging = none then
    { request with controls := request.controls ++ [.paging pagingSize []] }
  else request

/-- Where the first control of the paging type in the request is missing or a paging control
of the requested size, `SearchWithPaging` runs the loop from `firstRequest`, at a slot holding
a paging control of that size. -/
theorem searchWithPaging_eq_pagingRun {request : SearchRequest} {pagingSize : UInt32}
    (fits : ∀ control, findControl request.controls controlTypePaging = some control →
      ∃ cookie, control = .paging pagingSize cookie) :
    ∃ position cookie, PagingSlot (firstRequest request pagingSize) position ∧
      (firstRequest request pagingSize).controls[position]? = some (.paging pagingSize cookie) ∧
      ∀ conn server fuel, searchWithPaging conn server fuel request pagingSize =
        pagingRun conn server fuel (firstRequest request pagingSize) position := by
  cases found : findControl request.controls controlTypePaging with
  | none =>
    refine ⟨request.controls.length, [], ?_, by simp [firstRequest, found], fun _ _ _ => ?_⟩
    · simpa [firstRequest, found] using pagingSlot_appended found pagingSize
    · simp [searchWithPaging, firstRequest, found, newControlPaging]
  | some control =>
    obtain ⟨cookie, rfl⟩ := fits control found
    obtain ⟨slot, sits⟩ := pagingSlot_found found
    refine ⟨_, cookie, by simpa [firstRequest, found] using slot,
      by simpa [firstRequest, found] using sits, fun _ _ _ => ?_⟩
    simp [searchWithPaging, firstRequest, found]

/-- When the first control of the paging type in the request is not a paging control of the
requested size, `SearchWithPaging` returns an error without calling `Search` and leaves the
request as it was. -/
theorem searchWithPaging_refused {request : SearchRequest} {pagingSize : UInt32}
    {control : Control} (found : findControl request.controls controlTypePaging = some control)
    (other : ∀ cookie, control ≠ .paging pagingSize cookie) (conn : Conn) (server : Server)
    (fuel : ℕ) :
    ∃ err, searchWithPaging conn server fuel request pagingSize =
      .ok ⟨request, [], none, some err, true⟩ := by
  cases control with
  | paging size cookie =>
    have differs : size ≠ pagingSize := fun same => other cookie (by rw [same])
    exact ⟨_, by simp only [searchWithPaging, found]; rw [if_pos differs]; rfl⟩
  | other controlType => exact ⟨_, by simp only [searchWithPaging, found]; rfl⟩

/-- Every call of `SearchWithPaging` is refused, or runs the loop from `firstRequest`. -/
theorem searchWithPaging_cases (request : SearchRequest) (pagingSize : UInt32) :
    (∃ control, findControl request.controls controlTypePaging = some control ∧
      ∀ cookie, control ≠ .paging pagingSize cookie) ∨
    ∃ position cookie, PagingSlot (firstRequest request pagingSize) position ∧
      (firstRequest request pagingSize).controls[position]? = some (.paging pagingSize cookie) ∧
      ∀ conn server fuel, searchWithPaging conn server fuel request pagingSize =
        pagingRun conn server fuel (firstRequest request pagingSize) position := by
  by_cases fits : ∀ control, findControl request.controls controlTypePaging = some control →
      ∃ cookie, control = .paging pagingSize cookie
  · exact .inr (searchWithPaging_eq_pagingRun fits)
  · push_neg at fits
    exact .inl fits

/-- On a request whose first paging control has the requested size, `SearchWithPaging` runs
the loop from the request itself, at that control's slot. -/
theorem searchWithPaging_of_found {request : SearchRequest} {pagingSize : UInt32}
    {cookie : List UInt8}
    (found : findControl request.controls controlTypePaging = some (.paging pagingSize cookie))
    (conn : Conn) (server : Server) (fuel : ℕ) :
    searchWithPaging conn server fuel request pagingSize =
      pagingRun conn server fuel request
        (request.controls.findIdx (·.controlType = controlTypePaging)) := by
  simp [searchWithPaging, found]

/-! ## A sample directory -/

/-- A directory of two entries, paged one a page: the first page is `cn=a` and a cookie, any
other request gets `cn=b` and the last page. Its answer depends only on the request. -/
def sampleServer : Server :=
  ⟨fun _ request => .ok <| match pagingCookie request.controls with
    | some [] => [.ok (entryPacket "cn=a"), .ok (donePacket [107])]
    | _ => [.ok (entryPacket "cn=b"), .ok (donePacket [])]⟩

/-- The same directory with the connection lost on the second page, after `cn=b` arrived. -/
def failingServer : Server :=
  ⟨fun _ request => .ok <| match pagingCookie request.controls with
    | some [] => [.ok (entryPacket "cn=a"), .ok (donePacket [107])]
    | _ => [.ok (entryPacket "cn=b")]⟩

/-- A subtree search of `dc=example` with no controls. -/
def sampleRequest : SearchRequest :=
  newSearchRequest (.ofString "dc=example") 2 0 0 0 false (.ofString "(objectClass=*)") [] []

/-- A second call of `SearchWithPaging` on a request without a paging control reuses the one
the first call left in it. The first call, once returned, leaves the request holding the
control it appended, of the requested size, with the cookie of the last request it sent; the
second call sends that request first. When the first call sent a single request, the second
does exactly what the first did; when it sent more, the last cookie is not empty, so the second
call's first request differs from the first call's, and the second call does not repeat the
first. -/
theorem searchWithPaging_twice (conn : Conn) (server : Server) (fuel : ℕ)
    (request : SearchRequest) (pagingSize : UInt32)
    (fresh : findControl request.controls controlTypePaging = none) (run : Paged)
    (first : searchWithPaging conn server fuel request pagingSize = .ok run)
    (returned : run.finished = true) :
    (∃ cookie,
      run.request = { request with controls := request.controls ++ [.paging pagingSize cookie] } ∧
      run.calls.getLast?.map (·.request) = some run.request) ∧
    (∀ fuel' run', searchWithPaging conn server fuel' run.request pagingSize = .ok run' →
      ∀ call ∈ run'.calls.head?, call.request = run.request) ∧
    (run.calls.length = 1 → searchWithPaging conn server fuel run.request pagingSize = .ok run) ∧
    (2 ≤ run.calls.length → ∀ fuel' run',
      searchWithPaging conn server fuel' run.request pagingSize = .ok run' →
      run' ≠ run ∧ ∀ call ∈ run'.calls.head?, ∀ call₁ ∈ run.calls.head?,
        call.request ≠ call₁.request) := by
  have slot := pagingSlot_appended fresh pagingSize
  have holds : (request.controls ++ [newControlPaging pagingSize])[request.controls.length]? =
      some (.paging pagingSize []) := by
    simp [newControlPaging]
  have opened := findControl_withPaging slot pagingSize []
  rw [withPaging_self holds] at opened
  simp only [searchWithPaging, fresh] at first
  obtain ⟨trace, last, -⟩ := pagingRun_ends slot holds first
  obtain ⟨call, isLast, sent⟩ := Option.map_eq_some'.mp (last returned)
  obtain ⟨cookie, carried⟩ := trace.sized call (List.mem_of_mem_getLast? isLast)
  have left : run.request = _ := sent.symm.trans carried
  have found := findControl_withPaging slot pagingSize cookie
  rw [← left] at found
  have reuses : ∀ fuel' run', searchWithPaging conn server fuel' run.request pagingSize =
      .ok run' → ∀ call ∈ run'.calls.head?, call.request = run.request := by
    intro fuel' run' again
    rw [searchWithPaging_of_found found] at again
    obtain ⟨slot', sits'⟩ := pagingSlot_found found
    exact (pagingRun_ends slot' sits' again).1.first
  refine ⟨⟨cookie, ?_, last returned⟩, reuses, fun single => ?_, fun several fuel' run' again => ?_⟩
  · rw [left]
    simp [SearchRequest.withPaging, newControlPaging]
  · obtain ⟨only, calls⟩ := List.length_eq_one.mp single
    have ended := last returned
    simp only [calls, List.getLast?_singleton, Option.map_some', Option.some.injEq] at ended
    have begun : run.request = _ := ended.symm.trans (trace.first only (by simp [calls]))
    rw [begun, searchWithPaging_of_found opened, slot.1]
    exact first
  · -- The call before the last went on, so the last request carries a non-empty cookie.
    have split := List.dropLast_append_getLast? call isLast
    have chained := trace.chained
    rw [← split] at chained
    obtain ⟨before, isBefore⟩ : ∃ before, before ∈ run.calls.dropLast.getLast? :=
      Option.isSome_iff_exists.mp (List.getLast?_isSome.mpr
        (List.ne_nil_of_length_pos (by simp only [List.length_dropLast]; omega)))
    obtain ⟨-, page, cookie', -, -, nonempty, continued⟩ :=
      (List.chain'_append.mp chained).2.2 before isBefore call (by simp)
    -- The first request carries the empty cookie of the appended control.
    have differs : ∀ call₁ ∈ run.calls.head?, run.request ≠ call₁.request := by
      intro call₁ isFirst same
      have cookies := (congrArg (pagingCookie ·.controls) (same.trans
        (trace.first call₁ isFirst))).symm.trans (sent ▸ continued)
      simp [pagingCookie, opened] at cookies
      exact nonempty cookies
    refine ⟨fun same => ?_, fun call' isFirst' call₁ isFirst => ?_⟩
    · obtain ⟨head, tail, cons⟩ := List.exists_cons_of_ne_nil
        (List.ne_nil_of_length_pos (by omega : 0 < run.calls.length))
      have isHead : head ∈ run.calls.head? := by simp [cons]
      exact differs head isHead (reuses fuel' run' again head (same ▸ isHead)).symm
    · exact (reuses fuel' run' again call' isFirst').symm ▸ differs call₁ isFirst

/-- The sample search, run again on the request it leaves, starts from that request. -/
theorem searchWithPaging_twice_sample :
    ∃ run, findControl sampleRequest.controls controlTypePaging = none ∧
      searchWithPaging sampleConn sampleServer 3 sampleRequest 2 = .ok run ∧ run.finished = true ∧
      ∀ fuel run', searchWithPaging sampleConn sampleServer fuel run.request 2 = .ok run' →
        ∀ call ∈ run'.calls.head?, call.request = run.request :=
  ⟨_, rfl, rfl, rfl,
    (searchWithPaging_twice sampleConn sampleServer 3 sampleRequest 2 rfl _ rfl rfl).2.1⟩

/-- Running the sample search again on the request it leaves sends other requests and returns
another result: the second run starts from the last cookie. -/
theorem searchWithPaging_twice_differs :
    ∃ run₁ run₂, searchWithPaging sampleConn sampleServer 3 sampleRequest 2 = .ok run₁ ∧
      searchWithPaging sampleConn sampleServer 3 run₁.request 2 = .ok run₂ ∧
      run₁.calls.map (·.request) ≠ run₂.calls.map (·.request) ∧ run₁.result ≠ run₂.result ∧
      run₂.calls.head?.map (pagingCookie ·.request.controls) = some (some [107]) :=
  ⟨_, _, rfl, rfl, by decide, by decide, rfl⟩

/-! ## A page that fails -/

/-- When `SearchWithPaging` returns an error after calling `Search`, the error is the last
call's, so no request follows the one that failed, and its result holds the pages of the calls
before that one, and nothing of what it returned. -/
theorem searchWithPaging_error_result {conn : Conn} {server : Server} {fuel : ℕ}
    {request : SearchRequest} {pagingSize : UInt32} {run : Paged}
    (ran : searchWithPaging conn server fuel request pagingSize = .ok run)
    (called : run.calls ≠ []) {err : Error} (failed : run.err = some err) :
    run.result = some (joined (run.calls.dropLast.filterMap (·.result))) ∧
      ∀ call ∈ run.calls.getLast?, call.err = some err ∨
        call.err = none ∧ call.result = none ∧ err = packetNotReceived := by
  rcases searchWithPaging_cases request pagingSize with
    ⟨control, found, other⟩ | ⟨position, cookie, slot, holds, runs⟩
  · obtain ⟨_, refused⟩ := searchWithPaging_refused found other conn server fuel
    rw [refused] at ran
    cases ran
    exact absurd rfl called
  · rw [runs] at ran
    exact (pagingRun_ends slot holds ran).2.2.2.1 err failed

/-- When the connection is lost on the second page, `SearchWithPaging` returns the error of that
page's call, the last one, with the first page only. -/
theorem searchWithPaging_error_result_sample :
    ∃ run, searchWithPaging sampleConn failingServer 3 sampleRequest 2 = .ok run ∧
      run.calls ≠ [] ∧ run.err = some responseChannelClosed ∧
      run.result = some (joined (run.calls.dropLast.filterMap (·.result))) ∧
      ∀ call ∈ run.calls.getLast?, call.err = some responseChannelClosed ∨
        call.err = none ∧ call.result = none ∧ responseChannelClosed = packetNotReceived :=
  ⟨_, rfl, by decide, rfl, @searchWithPaging_error_result sampleConn failingServer 3 sampleRequest 2
    _ rfl (by decide) _ rfl⟩

/-- When the connection is lost on the second page, after `cn=b` arrived, `Search` returns
`cn=b` with the error, and `SearchWithPaging` returns the error with the first page only. -/
theorem paging_error_drops_partial_page :
    ∃ run, searchWithPaging sampleConn failingServer 3 sampleRequest 2 = .ok run ∧
      run.calls.map (·.result.map (·.entries.map (·.dn))) =
        [some [.ofString "cn=a"], some [.ofString "cn=b"]] ∧
      run.err = some responseChannelClosed ∧
      run.result.map (·.entries.map (·.dn)) = some [.ofString "cn=a"] :=
  ⟨_, rfl, rfl, rfl, rfl⟩

/-- When the second page fails after the first returned the cookie `[107]`, `SearchWithPaging`
returns with no request of paging size 0: it sent the two pages' requests, both of size 2. -/
theorem paging_error_skips_abandon :
    ∃ run, searchWithPaging sampleConn failingServer 3 sampleRequest 2 = .ok run ∧
      run.finished = true ∧ run.err = some responseChannelClosed ∧
      run.calls.map (findControl ·.request.controls controlTypePaging) =
        [some (.paging 2 []), some (.paging 2 [107])] :=
  ⟨_, rfl, rfl, rfl, rfl⟩

end Ldap
