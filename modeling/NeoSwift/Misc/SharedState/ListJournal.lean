import Mathlib.Logic.Function.Basic
import NeoSwift.Lib.Machine

/-!
# Shared lists

A list that is shared over a `CDataLinkLocal` (`misc/sharedstate`). Mutators add
elements to it, a journal keeps all of them, and an observer keeps those that match
its filter. An observer asks the journal for its list when it connects or changes
its filter, and gets the elements that are added later one by one.

All of them may live in threads of their own. The link dispatches an element to the
observers at once, while a request goes to the journal and its reply comes back through
the link. What the link dispatched in between reached the observer before the reply did,
and the reply replaces it: the observer never gets it back.

## Main definitions

* `SharedList`: The journal, the observers and the queues of their threads.
* `sharedList`: The machine of everything that can happen to them.
* `Due`: What an observer is to have by the order of the link.

## Theorems

* `run_due`: An observer has that, once it has handled what is on its way to it.
* `list_reconstructed`: What is lost is what was dispatched between the request and
  the reply.
-/

namespace NeoSwift.Misc

namespace SharedState

/-- What the thread of the link is to handle. -/
inductive LinkMessage (O E F : Type) where
  | event (param : E)
  | request (observer : O) (param : Option F)
  | reply (observer : O) (list : List E)

/-- The journal of a list, its observers, and the queues of all threads. An observer has
    no filter at first. -/
structure SharedList (O E F : Type) where
  m_eventSubscription : O → Option F := fun _ => none
  m_value : List E := []
  m_list : O → List E := fun _ => []
  link : List (LinkMessage O E F) := []
  journal : List (E ⊕ O × Option F) := []
  observer : O → List (E ⊕ List E) := fun _ => []

/-- What can happen: a call, or a thread handles what is next in its queue. -/
inductive SharedListInput (O E F : Type) where
  | addElement (value : E)
  | setEventSubscription (observer : O) (filter : Option F)
  | reconstruct (observer : O)
  | link
  | journal
  | observer (observer : O)

/-- What is done in the thread of the link and what the observers are told. -/
inductive SharedListOutput (O E F : Type) where
  | subscribed (observer : O) (filter : Option F)
  | dispatched (param : E)
  | asked (observer : O) (filter : Option F)
  | answered (observer : O)
  | elementAdded (observer : O) (value : E)
  | elementsReplaced (observer : O) (values : List E)

namespace SharedList

variable {O E F : Type} (matchesFilter : F → E → Bool)

/-- `CVariant::matches`. A variant that is not valid matches nothing. -/
def eventMatches (filter : Option F) (param : E) : Bool := filter.any fun f => matchesFilter f param

/-- `CGenericListJournal::handleRequest`. All elements match a filter that is not valid. -/
def handleRequest (filter : Option F) (m_value : List E) : List E :=
  match filter with
  | none => m_value
  | some f => m_value.filter (matchesFilter f)

/-- `CDataLinkLocal::dispatchEvent`. The journal has a filter that everything matches. -/
def dispatchEvent (s : SharedList O E F) (param : E) : SharedList O E F :=
  { s with
    journal := s.journal ++ [.inl param]
    observer := fun o =>
      if eventMatches matchesFilter (s.m_eventSubscription o) param then
        s.observer o ++ [.inl param]
      else s.observer o }

variable [DecidableEq O]

/-- A message comes to the thread of an observer. -/
def deliver (s : SharedList O E F) (o : O) (message : E ⊕ List E) : SharedList O E F :=
  { s with observer := Function.update s.observer o (s.observer o ++ [message]) }

/-- The thread of the link. -/
def handleLink (s : SharedList O E F) :
    SharedList O E F × List (SharedListOutput O E F) :=
  match s.link with
  | [] => (s, [])
  | .event param :: rest =>
      (dispatchEvent matchesFilter { s with link := rest } param, [.dispatched param])
  | .request o filter :: rest =>
      ({ s with link := rest, journal := s.journal ++ [.inr (o, filter)] }, [.asked o filter])
  | .reply o list :: rest => ({ s with link := rest }.deliver o (.inr list), [.answered o])

/-- The thread of the journal: `handleEvent` and `handleRequest`. -/
def handleJournal (s : SharedList O E F) : SharedList O E F :=
  match s.journal with
  | [] => s
  | .inl param :: rest => { s with journal := rest, m_value := s.m_value ++ [param] }
  | .inr (o, filter) :: rest =>
      { s with
        journal := rest
        link := s.link ++ [.reply o (handleRequest matchesFilter filter s.m_value)] }

/-- The list of an observer that handles a message. -/
def handled (list : List E) : E ⊕ List E → List E
  | .inl param => list ++ [param]
  | .inr values => values

/-- The thread of an observer: `handleEvent`, and the reply to `reconstruct`. -/
def handleObserver (s : SharedList O E F) (o : O) :
    SharedList O E F × List (SharedListOutput O E F) :=
  match s.observer o with
  | [] => (s, [])
  | message :: rest =>
      ({ s with
          observer := Function.update s.observer o rest
          m_list := Function.update s.m_list o (handled (s.m_list o) message) },
        match message with
        | .inl param => [.elementAdded o param]
        | .inr values => [.elementsReplaced o values])

/-- `setFilter` is `setEventSubscription` and `reconstruct`. -/
def step (s : SharedList O E F) :
    SharedListInput O E F → SharedList O E F × List (SharedListOutput O E F)
  | .addElement value => ({ s with link := s.link ++ [.event value] }, [])
  | .setEventSubscription o filter =>
      ({ s with m_eventSubscription := Function.update s.m_eventSubscription o filter },
        [.subscribed o filter])
  | .reconstruct o => ({ s with link := s.link ++ [.request o (s.m_eventSubscription o)] }, [])
  | .link => s.handleLink matchesFilter
  | .journal => (s.handleJournal matchesFilter, [])
  | .observer o => s.handleObserver o

def sharedList : Machine (SharedList O E F) (SharedListInput O E F) (SharedListOutput O E F) where
  step := step matchesFilter

/-! ## What an observer is to have -/

/-- What an observer is to have by what the link has done: its filter, all elements, the
    lists it will get for its requests, and its own list. -/
structure Due (E F : Type) where
  filter : Option F := none
  history : List E := []
  asked : List (List E) := []
  list : List E := []

/-- A reply replaces the list, and it is the one from when the request went on. -/
def Due.next (o : O) (d : Due E F) : SharedListOutput O E F → Due E F
  | .subscribed u filter => if u = o then { d with filter } else d
  | .dispatched param =>
      { d with
        history := d.history ++ [param]
        list := if eventMatches matchesFilter d.filter param then d.list ++ [param] else d.list }
  | .asked u filter =>
      if u = o then { d with asked := d.asked ++ [handleRequest matchesFilter filter d.history] }
      else d
  | .answered u =>
      if u = o then { d with asked := d.asked.tail, list := d.asked.headD d.list } else d
  | .elementAdded _ _ | .elementsReplaced _ _ => d

def due (o : O) (out : List (SharedListOutput O E F)) : Due E F :=
  out.foldl (Due.next matchesFilter o) {}

theorem due_append (o : O) (out es : List (SharedListOutput O E F)) :
    due matchesFilter o (out ++ es)
      = es.foldl (Due.next matchesFilter o) (due matchesFilter o out) := List.foldl_append

/-- The lists with which the journal will reply to an observer. -/
def answers (o : O) : List E → List (E ⊕ O × Option F) → List (List E)
  | _, [] => []
  | m_value, .inl param :: rest => answers o (m_value ++ [param]) rest
  | m_value, .inr (u, filter) :: rest =>
      if u = o then handleRequest matchesFilter filter m_value :: answers o m_value rest
      else answers o m_value rest

/-- The elements on their way to the journal. -/
def arriving (journal : List (E ⊕ O × Option F)) : List E := journal.filterMap Sum.getLeft?

theorem answers_append (o : O) (m_value : List E) (xs ys : List (E ⊕ O × Option F)) :
    answers matchesFilter o m_value (xs ++ ys)
      = answers matchesFilter o m_value xs
        ++ answers matchesFilter o (m_value ++ arriving xs) ys := by
  induction xs generalizing m_value with
  | nil => simp [answers, arriving]
  | cons x xs ih =>
      rcases x with param | ⟨u, filter⟩
      · simp [answers, ih, arriving]
      · by_cases hu : u = o
        · simp [answers, if_pos hu, ih, arriving, List.filterMap_cons]
        · simp [answers, if_neg hu, ih, arriving, List.filterMap_cons]

/-- The lists on their way back to an observer. -/
def returning (o : O) (link : List (LinkMessage O E F)) : List (List E) :=
  link.filterMap fun
    | .reply u list => if u = o then some list else none
    | _ => none

/-- The queues against what the link has done so far. -/
structure InStep (o : O) (s : SharedList O E F) (d : Due E F) : Prop where
  filter : s.m_eventSubscription o = d.filter
  history : s.m_value ++ arriving s.journal = d.history
  asked : returning o s.link ++ answers matchesFilter o s.m_value s.journal = d.asked
  list : (s.observer o).foldl handled (s.m_list o) = d.list

variable {matchesFilter}

theorem inStep_link {o : O} {s : SharedList O E F} {d : Due E F}
    (h : InStep matchesFilter o s d) : InStep matchesFilter o (s.handleLink matchesFilter).1
      ((s.handleLink matchesFilter).2.foldl (Due.next matchesFilter o) d) := by
  rcases h with ⟨hfilter, hhistory, hasked, hlist⟩
  unfold handleLink
  cases hlink : s.link with
  | nil => exact ⟨hfilter, hhistory, hasked, hlist⟩
  | cons message rest =>
      rw [hlink] at hasked
      cases message with
      -- An event goes to the list only if the filter lets it through.
      | event param =>
          refine ⟨hfilter, ?_, ?_, ?_⟩
          · simp [dispatchEvent, Due.next, arriving, ← hhistory]
          · simp only [dispatchEvent, answers_append, answers, List.append_nil]
            exact hasked
          · simp only [dispatchEvent, List.foldl_cons, Due.next, hfilter, ← hlist]
            split
            · rw [List.foldl_append]
              rfl
            · rfl
      -- The journal answers at once with what has come so far.
      | request u filter =>
          by_cases hu : u = o
          · simp only [List.foldl_cons, Due.next, if_pos hu]
            refine ⟨hfilter, ?_, ?_, hlist⟩
            · simp [arriving, ← hhistory]
            · simp only [answers_append, answers, if_pos hu, hhistory, ← hasked, List.append_assoc]
              rfl
          · simp only [List.foldl_cons, Due.next, if_neg hu]
            refine ⟨hfilter, ?_, ?_, hlist⟩
            · simp [arriving, ← hhistory]
            · simp only [answers_append, answers, if_neg hu, List.append_nil]
              exact hasked
      -- The reply takes the place of the list, and no longer waits on the link.
      | reply u list =>
          by_cases hu : u = o
          · subst hu
            have hreturn : returning u (.reply u list :: rest : List (LinkMessage O E F))
                = list :: returning u rest := by
              simp [returning]
            rw [hreturn] at hasked
            simp only [List.foldl_cons, Due.next, ← hasked]
            refine ⟨hfilter, hhistory, rfl, ?_⟩
            simp [deliver, handled]
          · simp only [List.foldl_cons, List.foldl_nil, Due.next, if_neg hu]
            refine ⟨hfilter, hhistory, ?_, ?_⟩
            · rw [← hasked]
              simp [returning, deliver, hu]
            · simp only [deliver, Function.update_of_ne (Ne.symm hu)]
              exact hlist

theorem inStep_journal {o : O} {s : SharedList O E F} {d : Due E F}
    (h : InStep matchesFilter o s d) :
    InStep matchesFilter o (s.handleJournal matchesFilter) d := by
  rcases h with ⟨hfilter, hhistory, hasked, hlist⟩
  unfold handleJournal
  cases hjournal : s.journal with
  | nil => exact ⟨hfilter, hhistory, hasked, hlist⟩
  | cons message rest =>
      rw [hjournal] at hhistory hasked
      rcases message with param | ⟨u, filter⟩
      · refine ⟨hfilter, ?_, hasked, hlist⟩
        rw [← hhistory]
        simp [arriving]
      · refine ⟨hfilter, hhistory, ?_, hlist⟩
        rw [← hasked]
        -- The reply comes behind the ones that are already on their way.
        by_cases hu : u = o <;> simp [returning, answers, hu]

theorem inStep_observer {o : O} {s : SharedList O E F} {d : Due E F}
    (h : InStep matchesFilter o s d) (u : O) : InStep matchesFilter o (s.handleObserver u).1
      ((s.handleObserver u).2.foldl (Due.next matchesFilter o) d) := by
  rcases h with ⟨hfilter, hhistory, hasked, hlist⟩
  unfold handleObserver
  cases hqueue : s.observer u with
  | nil => exact ⟨hfilter, hhistory, hasked, hlist⟩
  | cons message rest =>
      have hlist' : (Function.update s.observer u rest o).foldl handled
          (Function.update s.m_list u (handled (s.m_list u) message) o) = d.list := by
        by_cases hu : o = u
        · subst hu
          rw [Function.update_self, Function.update_self, ← hlist, hqueue, List.foldl_cons]
        · rw [Function.update_of_ne hu, Function.update_of_ne hu, hlist]
      cases message <;> exact ⟨hfilter, hhistory, hasked, hlist'⟩

theorem inStep_step {o : O} {s : SharedList O E F} {d : Due E F}
    (h : InStep matchesFilter o s d) (input : SharedListInput O E F) :
    InStep matchesFilter o (step matchesFilter s input).1
      ((step matchesFilter s input).2.foldl (Due.next matchesFilter o) d) := by
  cases input with
  | addElement value =>
      refine ⟨h.filter, h.history, ?_, h.list⟩
      simpa [step, returning] using h.asked
  | setEventSubscription u filter =>
      by_cases hu : u = o
      · subst hu
        simp only [step, List.foldl_cons, Due.next]
        exact ⟨Function.update_self .., h.history, h.asked, h.list⟩
      · simp only [step, List.foldl_cons, Due.next, if_neg hu]
        exact ⟨(Function.update_of_ne (Ne.symm hu) ..).trans h.filter, h.history, h.asked, h.list⟩
  | reconstruct u =>
      refine ⟨h.filter, h.history, ?_, h.list⟩
      simpa [step, returning] using h.asked
  | link => exact inStep_link h
  | journal => exact inStep_journal h
  | observer u => exact inStep_observer h u

variable (matchesFilter)

/-- Whatever the threads do and in which order: once an observer has handled what is on
    its way to it, it has what it is to have by what the link has done, and the journal
    has all that was dispatched. -/
theorem run_due (inputs : List (SharedListInput O E F)) (o : O) :
    InStep matchesFilter o ((sharedList matchesFilter).run {} inputs).1
      (due matchesFilter o ((sharedList matchesFilter).run {} inputs).2) := by
  have h := (sharedList matchesFilter).run_invariant
    (fun s out => InStep matchesFilter o s (due matchesFilter o out)) ?_ inputs {} []
    ⟨rfl, rfl, rfl, rfl⟩
  · rwa [List.nil_append] at h
  · intro s out input hs
    rw [due_append]
    exact inStep_step hs input

/-- An observer keeps its filter, and no other request of it goes on. -/
def Settled (o : O) (es : List (SharedListOutput O E F)) : Prop :=
  ∀ e ∈ es, (∀ filter, e ≠ .subscribed o filter) ∧ ∀ filter, e ≠ .asked o filter

/-- Nothing changes for an observer but that elements are dispatched. -/
def Calm (o : O) (es : List (SharedListOutput O E F)) : Prop :=
  Settled o es ∧ ∀ e ∈ es, e ≠ .answered o

/-- How many replies come to an observer. -/
def replies (o : O) (es : List (SharedListOutput O E F)) : ℕ :=
  es.countP fun
    | .answered u => u = o
    | _ => false

/-- The elements that were dispatched. -/
def dispatched (es : List (SharedListOutput O E F)) : List E :=
  es.filterMap fun
    | .dispatched param => some param
    | _ => none

/-- Replies come in the order of the requests. -/
theorem foldl_settled {o : O} {es : List (SharedListOutput O E F)} (h : Settled o es)
    (d : Due E F) :
    (es.foldl (Due.next matchesFilter o) d).filter = d.filter ∧
      (es.foldl (Due.next matchesFilter o) d).history = d.history ++ dispatched es ∧
      (es.foldl (Due.next matchesFilter o) d).asked = d.asked.drop (replies o es) := by
  induction es generalizing d with
  | nil => exact ⟨rfl, (List.append_nil _).symm, rfl⟩
  | cons e es ih =>
      rcases List.forall_mem_cons.mp h with ⟨⟨hsub, hask⟩, hrest⟩
      rcases ih hrest (Due.next matchesFilter o d e) with ⟨hfilter, hhistory, hasked⟩
      rw [List.foldl_cons, hfilter, hhistory, hasked]
      -- Only replies to the observer itself take off what it has asked.
      cases e with
      | subscribed u filter =>
          have hu : u ≠ o := fun hu => hsub filter (by rw [hu])
          simp [Due.next, hu, dispatched, replies]
      | dispatched param => simp [Due.next, dispatched, replies]
      | asked u filter =>
          have hu : u ≠ o := fun hu => hask filter (by rw [hu])
          simp [Due.next, hu, dispatched, replies]
      | answered u =>
          by_cases hu : u = o <;> simp [Due.next, hu, dispatched, replies]
      | elementAdded | elementsReplaced => simp [Due.next, dispatched, replies]

/-- While it is calm an observer gets the elements that match. -/
theorem foldl_calm {o : O} {es : List (SharedListOutput O E F)} (h : Calm o es) (d : Due E F) :
    es.foldl (Due.next matchesFilter o) d
      = { d with
          history := d.history ++ dispatched es
          list := d.list ++ (dispatched es).filter (eventMatches matchesFilter d.filter) } := by
  induction es generalizing d with
  | nil => simp [dispatched]
  | cons e es ih =>
      rcases List.forall_mem_cons.mp h.1 with ⟨⟨hsub, hask⟩, hsettled⟩
      rcases List.forall_mem_cons.mp h.2 with ⟨hans, hrest⟩
      rw [List.foldl_cons, ih ⟨hsettled, hrest⟩]
      -- What is told of others leaves the observer as it is.
      cases e with
      | subscribed u filter =>
          have hu : u ≠ o := fun hu => hsub filter (by rw [hu])
          simp [Due.next, hu, dispatched]
      | dispatched param =>
          by_cases hmatch : eventMatches matchesFilter d.filter param <;>
            simp [Due.next, hmatch, dispatched]
      | asked u filter =>
          have hu : u ≠ o := fun hu => hask filter (by rw [hu])
          simp [Due.next, hu, dispatched]
      | answered u =>
          have hu : u ≠ o := fun hu => hans (by rw [hu])
          simp [Due.next, hu, dispatched]
      | elementAdded | elementsReplaced => rfl

theorem history_due (o : O) (out : List (SharedListOutput O E F)) :
    (due matchesFilter o out).history = dispatched out := by
  have hnext : ∀ (d : Due E F) e, (Due.next matchesFilter o d e).history
      = d.history ++ dispatched [e] := by
    intro d e
    cases e with
    | dispatched param => rfl
    | subscribed u | asked u | answered u =>
        by_cases hu : u = o <;> simp [Due.next, dispatched, hu]
    | elementAdded | elementsReplaced => exact (List.append_nil _).symm
  induction out using List.reverseRecOn with
  | nil => rfl
  | append_singleton out e ih =>
      rw [due_append, List.foldl_cons, List.foldl_nil, hnext, ih]
      exact List.filterMap_append.symm

/-- After the reply to its last request an observer has what matched when the request went on, and
    what came after the reply. That is all there is exactly if nothing that matches was dispatched
    in between. Requests before it may be unanswered still: their replies come first. -/
theorem list_reconstructed (inputs : List (SharedListInput O E F)) (o : O) (f : F)
    (pre mid post : List (SharedListOutput O E F))
    (hout : ((sharedList matchesFilter).run {} inputs).2
      = pre ++ .asked o (some f) :: (mid ++ .answered o :: post))
    (hfilter : (due matchesFilter o pre).filter = some f)
    (hreply : replies o mid = (due matchesFilter o pre).asked.length) (hmid : Settled o mid)
    (hpost : Calm o post) :
    let s := ((sharedList matchesFilter).run {} inputs).1
    (s.observer o).foldl handled (s.m_list o)
        = (dispatched pre ++ dispatched post).filter (matchesFilter f) ∧
      ((s.observer o).foldl handled (s.m_list o)
          = (s.m_value ++ arriving s.journal).filter (matchesFilter f) ↔
        ∀ param ∈ dispatched mid, matchesFilter f param = false) := by
  intro s
  have hrun := run_due matchesFilter inputs o
  have hlist : (s.observer o).foldl handled (s.m_list o)
      = (dispatched pre ++ dispatched post).filter (matchesFilter f) := by
    refine hrun.list.trans ?_
    rw [hout, due_append, List.foldl_cons, List.foldl_append, List.foldl_cons,
      foldl_calm matchesFilter hpost]
    rcases foldl_settled matchesFilter hmid
      (Due.next matchesFilter o (due matchesFilter o pre) (.asked o (some f))) with
      ⟨hkept, -, hasked⟩
    -- The replies to the requests before it are gone, and its own one is next.
    have hnext : ((due matchesFilter o pre).asked
        ++ [handleRequest matchesFilter (some f) (due matchesFilter o pre).history]).drop
          (replies o mid) = [(dispatched pre).filter (matchesFilter f)] := by
      rw [hreply, List.drop_left, history_due]
      rfl
    have hasked' := hasked.trans ((congrArg (List.drop _) (congrArg Due.asked (if_pos rfl))).trans
      hnext)
    have hkept' := hkept.trans ((congrArg Due.filter (if_pos rfl)).trans hfilter)
    generalize mid.foldl _ _ = d at hasked' hkept'
    simp only [Due.next, hkept', hasked', List.filter_append]
    rfl
  have hall : s.m_value ++ arriving s.journal
      = dispatched pre ++ (dispatched mid ++ dispatched post) := by
    rw [hrun.history, history_due, hout]
    simp [dispatched]
  refine ⟨hlist, ?_⟩
  rw [hlist, hall, List.filter_append, List.filter_append, List.filter_append,
    List.append_cancel_left_eq, List.self_eq_append_left, List.filter_eq_nil_iff]
  exact forall₂_congr fun param _ => Bool.eq_false_iff.symm

/-- The second element is dispatched while the replies to two requests, with the first element, are
    on their way. -/
def overtaking : List (SharedListInput Unit ℕ Unit) :=
  [.setEventSubscription () (some ()), .addElement 1, .link, .journal, .reconstruct (), .link,
    .reconstruct (), .link, .addElement 2, .journal, .journal, .link, .link, .link, .addElement 3,
    .link]

theorem list_reconstructed_overtaking :
    let s := ((sharedList fun _ _ => true).run {} overtaking).1
    (s.observer ()).foldl handled (s.m_list ())
        = (dispatched [SharedListOutput.subscribed () (some ()), .dispatched 1,
            .asked () (some ())]
          ++ dispatched [(.dispatched 3 : SharedListOutput Unit ℕ Unit)]).filter (fun _ => true) ∧
      ((s.observer ()).foldl handled (s.m_list ())
          = (s.m_value ++ arriving s.journal).filter (fun _ => true) ↔
        ∀ param ∈ dispatched [(.dispatched 2 : SharedListOutput Unit ℕ Unit), .answered ()],
          true = false) :=
  list_reconstructed (fun _ _ => true) overtaking () ()
    [.subscribed () (some ()), .dispatched 1, .asked () (some ())] [.dispatched 2, .answered ()]
    [.dispatched 3] rfl rfl rfl (by simp [Settled]) (by simp [Calm, Settled])

end SharedList

end SharedState

end NeoSwift.Misc
