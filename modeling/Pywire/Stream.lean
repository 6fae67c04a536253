import Mathlib.Data.Seq.Basic
import Pywire.DataRow
import Pywire.Lib.Unfold

/-!
# Stream: rows pulled from an async iterable

`rowStream` unfolds the rows of `Response.stream` by calling `__anext__` on the object that was passed.  Async
iteration calls it on what `__aiter__` of that object returns, and takes a `StopAsyncIteration` for the end also
when the call itself raises it.

* `stream_iterates_iff`: **Main result** — the stream follows async iteration exactly when the object answers like
  its iterator, up to the first answer that is not a row.
* `stream_iterates_of_iterator`: so it does for iterators that raise `StopAsyncIteration` when awaited.
* `stream_iterates_fails`: an iterable that is not its own iterator yields an error in place of its rows.
-/

namespace Pywire

/-! ### Async iteration -/

/-- What comes of one advance of an object: the call of `__anext__` raises or returns nothing that can be awaited,
the await raises, or it gives a value, which is read as a row. -/
inductive Anext where
  | raised (err : PyErr)
  | failed (err : PyErr)
  | value (row : Except PyErr (List Cell))

/-- The iterators of objects and what comes of their advances, one after the other. -/
structure AsyncHeap where
  aiter : PyObj → PyObj
  anext : PyObj → ℕ → Anext

/-- An advance as `async for` takes it. -/
inductive Advance where
  | row (cells : List Cell)
  | stop
  | failure

def Anext.advance : Anext → Advance
  | .raised err | .failed err => if err.isInstance .stopAsyncIteration then .stop else .failure
  | .value (.ok cells) => .row cells
  | .value (.error _) => .failure

/-- The outcomes of the iterator of an object. -/
def AsyncHeap.advance (heap : AsyncHeap) (rows : PyObj) (n : ℕ) : Advance := (heap.anext (heap.aiter rows) n).advance

def Advance.IsRow (o : Advance) : Prop := ∃ cells, o = .row cells

/-- Async iteration over the object gives a list of rows. -/
def AsyncHeap.Lists (heap : AsyncHeap) (rows : PyObj) (list : List (List Cell)) : Prop :=
  (∀ i, ∀ h : i < list.length, heap.advance rows i = .row list[i]) ∧ heap.advance rows list.length = .stop

/-! ### The stream -/

/-- One step of `stream::unfold` in the Stream arm of `PyResponse::into_pg`. -/
def pulled (rows : PyObj) : Anext → Option (Except PgWireError DataRow × Option PyObj)
  | .value (.ok cells) => some (.ok (encodeDataRow cells), some rows)
  | .value (.error err) => some (.error (pyErrToPywire err), none)
  | .failed err => if err.isInstance .stopAsyncIteration then none else some (.error (pyErrToPywire err), none)
  | .raised err => some (.error (pyErrToPywire err), none)

/-- The step with the calls of `__anext__` so far, for each object. -/
def pull (heap : AsyncHeap) : Unfold.Step (Option PyObj) (PyObj → ℕ) (Except PgWireError DataRow)
  | none, calls => (none, calls)
  | some rows, calls => (pulled rows (heap.anext rows (calls rows)), Function.update calls rows (calls rows + 1))

def RowStream.start (rows : PyObj) : Unfold.Polled (Option PyObj) (PyObj → ℕ) := ⟨some (some rows), fun _ => 0⟩

def rowStream (heap : AsyncHeap) (rows : PyObj) : Stream'.Seq (Except PgWireError DataRow) :=
  Unfold.items (pull heap) (RowStream.start rows)

/-- The rows that pgwire gets out of a response. -/
def Response.rowItems (heap : AsyncHeap) : Response → Option (Stream'.Seq (Except PgWireError DataRow))
  | .query ⟨_, .iter rows, _⟩ => some (.ofList rows)
  | .query ⟨_, .unfold rows, _⟩ => some (rowStream heap rows)
  | _ => none

/-! ### What is asked of the stream -/

/-- However often the stream is polled, the iterator is advanced `n` times and once more at the most. -/
def NotAdvancedAfter (heap : AsyncHeap) (rows : PyObj) (n : ℕ) : Prop :=
  ∀ m, (Unfold.polls (pull heap) m (RowStream.start rows)).world (heap.aiter rows) ≤ n + 1

/-- What the stream makes of outcome `n` of the iterator. -/
def Emits (heap : AsyncHeap) (rows : PyObj) (n : ℕ) : Advance → Prop
  | .row cells => (rowStream heap rows).get? n = some (.ok (encodeDataRow cells))
  | .stop => (rowStream heap rows).get? n = none ∧ NotAdvancedAfter heap rows n
  | .failure => (∃ err, (rowStream heap rows).get? n = some (.error err)) ∧
      (rowStream heap rows).get? (n + 1) = none ∧ NotAdvancedAfter heap rows n

/-- The stream follows async iteration up to the first outcome that is not a row; and a list of rows streams like
it is sent by `Response.query`. -/
def StreamsIteration (heap : AsyncHeap) (rows : PyObj) : Prop :=
  (∀ n, (∀ i < n, (heap.advance rows i).IsRow) → Emits heap rows n (heap.advance rows n)) ∧
    ∀ list, heap.Lists rows list → ∀ fields commandTag,
      (PyResponse.stream fields rows commandTag).intoPg.rowItems heap =
        (PyResponse.query fields list commandTag).intoPg.rowItems heap

/-- An advance of the object that is as good as an outcome of the iterator. -/
def Advance.Answered : Advance → Anext → Prop
  | .row cells, a => ∃ cells', a = .value (.ok cells') ∧ encodeDataRow cells' = encodeDataRow cells
  | .stop, a => ∃ err, a = .failed err ∧ err.isInstance .stopAsyncIteration
  | .failure, a => (∀ cells, a ≠ .value (.ok cells)) ∧ ∀ err, a = .failed err → ¬ err.isInstance .stopAsyncIteration

/-- Up to the first outcome that is not a row, the object itself answers like its iterator. -/
def AnswersAlike (heap : AsyncHeap) (rows : PyObj) : Prop :=
  ∀ n, (∀ i < n, (heap.advance rows i).IsRow) → (heap.advance rows n).Answered (heap.anext rows n)

/-! ### Steps and runs of the stream -/

/-- The calls of `__anext__` when only the object was called. -/
def calledTimes (rows : PyObj) (n : ℕ) : PyObj → ℕ := fun obj => if obj = rows then n else 0

theorem calledTimes_le (rows obj : PyObj) (n : ℕ) : calledTimes rows n obj ≤ n := by
  unfold calledTimes
  split_ifs <;> omega

theorem pull_some (heap : AsyncHeap) (rows : PyObj) (n : ℕ) :
    pull heap (some rows) (calledTimes rows n) = (pulled rows (heap.anext rows n), calledTimes rows (n + 1)) := by
  have hself : calledTimes rows n rows = n := if_pos rfl
  have hcalls : Function.update (calledTimes rows n) rows (n + 1) = calledTimes rows (n + 1) := by
    ext obj
    by_cases hobj : obj = rows
    · subst hobj
      simp [calledTimes]
    · simp [calledTimes, hobj]
  rw [pull, hself, hcalls]

theorem pull_idle (heap : AsyncHeap) : Unfold.Idle (pull heap) none := fun _ => rfl

section

variable {heap : AsyncHeap} {rows : PyObj} {n : ℕ}

/-- The rows of an object that answers rows. -/
def AsyncHeap.cells (heap : AsyncHeap) (rows : PyObj) (i : ℕ) : List Cell :=
  match heap.anext rows i with
  | .value (.ok cells) => cells
  | _ => []

def AnswersRows (heap : AsyncHeap) (rows : PyObj) (n : ℕ) : Prop :=
  ∀ i < n, ∃ cells, heap.anext rows i = .value (.ok cells)

theorem AnswersRows.anext_eq (h : AnswersRows heap rows n) {i : ℕ} (hi : i < n) :
    heap.anext rows i = .value (.ok (heap.cells rows i)) := by
  obtain ⟨cells, hcells⟩ := h i hi
  simp only [AsyncHeap.cells, hcells]

/-- As long as the object answers rows, the stream runs on. -/
theorem AnswersRows.runs (h : AnswersRows heap rows n) :
    Unfold.Runs (pull heap) (fun _ => some rows) (calledTimes rows)
      (fun i => .ok (encodeDataRow (heap.cells rows i))) n := by
  intro i hi
  rw [pull_some, h.anext_eq hi]
  rfl

theorem RowStream.start_eq (rows : PyObj) : RowStream.start rows = ⟨some (some rows), calledTimes rows 0⟩ := by
  have hcalls : calledTimes rows 0 = fun _ => 0 := by
    ext obj
    exact Nat.le_zero.mp (calledTimes_le rows obj 0)
  rw [RowStream.start, hcalls]

/-- The stream after the rows: what the step makes of the next answer. -/
theorem AnswersRows.get? (h : AnswersRows heap rows n) :
    (rowStream heap rows).get? n = (pulled rows (heap.anext rows n)).map Prod.fst := by
  have hadd := h.runs.get?_add 0
  rw [rowStream, RowStream.start_eq, ← Nat.add_zero n, hadd, Unfold.get?_items, Unfold.polls]
  rcases hpulled : pulled rows (heap.anext rows n) with _ | ⟨item, next⟩
  · rw [Unfold.poll_done (by rw [pull_some, hpulled])]
    rfl
  · rw [Unfold.poll_item (by rw [pull_some, hpulled])]
    rfl

/-- A step that is no row ends the stream: no item follows, and nothing is called again. -/
theorem AnswersRows.polls_over (h : AnswersRows heap rows n)
    (hlast : ∀ item next, pulled rows (heap.anext rows n) = some (item, next) → next = none) (m : ℕ) :
    (rowStream heap rows).get? (n + 1 + m) = none ∧
      (Unfold.polls (pull heap) (n + 1 + m) (RowStream.start rows)).world = calledTimes rows (n + 1) := by
  have hstart : Unfold.polls (pull heap) (n + 1 + m) (RowStream.start rows) =
      Unfold.polls (pull heap) m (Unfold.poll (pull heap) ⟨some (some rows), calledTimes rows n⟩).2 := by
    rw [RowStream.start_eq, Unfold.polls_add, Unfold.polls, h.runs.polls]
  rw [rowStream, Unfold.get?_items, hstart]
  rcases hpulled : pulled rows (heap.anext rows n) with _ | ⟨item, next⟩
  · rw [Unfold.poll_done (by rw [pull_some, hpulled]), Unfold.polls_over _ rfl]
    exact ⟨rfl, rfl⟩
  · obtain rfl := hlast item next hpulled
    rw [Unfold.poll_item (by rw [pull_some, hpulled])]
    exact ⟨(Unfold.items _ _).le_stable (Nat.zero_le m) ((pull_idle heap).get? _), (pull_idle heap).world _ m⟩

/-- The iterator is not advanced after the stream is over. -/
theorem AnswersRows.notAdvancedAfter (h : AnswersRows heap rows n)
    (hlast : ∀ item next, pulled rows (heap.anext rows n) = some (item, next) → next = none) :
    NotAdvancedAfter heap rows n := by
  intro m
  rcases Nat.lt_or_ge n m with hm | hm
  · obtain ⟨m, rfl⟩ := Nat.exists_eq_add_of_lt hm
    rw [Nat.add_right_comm, (h.polls_over hlast m).2]
    exact calledTimes_le ..
  · have hrows : AnswersRows heap rows m := fun i hi => h i (by omega)
    rw [RowStream.start_eq, hrows.runs.polls]
    exact (calledTimes_le ..).trans (by omega)

/-! ### The stream follows the iterator -/

theorem pulled_eq_none {a : Anext} :
    pulled rows a = none ↔ ∃ err, a = .failed err ∧ err.isInstance .stopAsyncIteration := by
  rcases a with err | err | err | cells
  · simp [pulled]
  · simp [pulled]
  · simp [pulled]
  · simp [pulled]

theorem pulled_eq_ok {a : Anext} {row : DataRow} :
    (pulled rows a).map Prod.fst = some (.ok row) ↔ ∃ cells, a = .value (.ok cells) ∧ encodeDataRow cells = row := by
  rcases a with err | err | err | cells
  · simp [pulled]
  · by_cases hstop : err.isInstance .stopAsyncIteration
    · simp [pulled, hstop]
    · simp [pulled, hstop]
  · simp [pulled]
  · simp [pulled]

variable (rows) in
/-- What is neither a row nor the end is an error, and the end comes next. -/
theorem pulled_eq_error {a : Anext} :
    (∃ err, pulled rows a = some (.error err, none)) ↔
      (∀ cells, a ≠ .value (.ok cells)) ∧ ∀ err, a = .failed err → ¬ err.isInstance .stopAsyncIteration := by
  rcases a with err | err | err | cells
  · simp [pulled]
  · by_cases hstop : err.isInstance .stopAsyncIteration
    · simp [pulled, hstop]
    · simp [pulled, hstop]
  · simp [pulled]
  · simp [pulled]

theorem pulled_eq_some {a : Anext} {item : Except PgWireError DataRow} {next : Option PyObj}
    (h : pulled rows a = some (item, next)) : (∃ row, item = .ok row) ∨ next = none := by
  unfold pulled at h
  split at h
  · obtain ⟨rfl, -⟩ := Prod.mk.inj (Option.some.inj h)
    exact .inl ⟨_, rfl⟩
  · exact .inr (Prod.mk.inj (Option.some.inj h)).2.symm
  · split_ifs at h
    exact .inr (Prod.mk.inj (Option.some.inj h)).2.symm
  · exact .inr (Prod.mk.inj (Option.some.inj h)).2.symm

/-- After the rows, the stream treats the next outcome right exactly when the object answers it. -/
theorem AnswersRows.emits_iff (h : AnswersRows heap rows n) (o : Advance) :
    Emits heap rows n o ↔ o.Answered (heap.anext rows n) := by
  cases o with
  | row cells =>
    show (rowStream heap rows).get? n = _ ↔ _
    rw [h.get?, pulled_eq_ok]
    rfl
  | stop =>
    show (rowStream heap rows).get? n = none ∧ _ ↔ _
    rw [h.get?, Option.map_eq_none_iff, pulled_eq_none]
    refine ⟨And.left, fun ha => ⟨ha, h.notAdvancedAfter fun item next hpulled => ?_⟩⟩
    rw [pulled_eq_none.mpr ha] at hpulled
    cases hpulled
  | failure =>
    show (∃ err, (rowStream heap rows).get? n = some (.error err)) ∧ _ ↔ _
    rw [h.get?, Advance.Answered, ← pulled_eq_error rows]
    constructor
    · rintro ⟨⟨err, herr⟩, -⟩
      obtain ⟨⟨_, next⟩, hpulled, rfl⟩ := Option.map_eq_some_iff.mp herr
      refine ⟨err, ?_⟩
      rcases pulled_eq_some hpulled with ⟨row, hrow⟩ | rfl
      · cases hrow
      · exact hpulled
    · rintro ⟨err, hpulled⟩
      have hlast : ∀ item next, pulled rows (heap.anext rows n) = some (item, next) → next = none := by
        intro item next hnext
        exact (Prod.mk.inj (Option.some.inj (hpulled.symm.trans hnext))).2.symm
      exact ⟨⟨err, by rw [hpulled]; rfl⟩, (h.polls_over hlast 0).1, h.notAdvancedAfter hlast⟩

end

/-- An outcome that the object answers is a row only if the object answers a row. -/
theorem answersRows_of_answered {heap : AsyncHeap} {rows : PyObj} {n : ℕ}
    (hrows : ∀ i < n, (heap.advance rows i).IsRow)
    (h : ∀ i < n, (heap.advance rows i).Answered (heap.anext rows i)) : AnswersRows heap rows n := by
  intro i hi
  obtain ⟨cells, hcells⟩ := hrows i hi
  have hanswered := h i hi
  rw [hcells] at hanswered
  obtain ⟨cells', hcells', -⟩ := hanswered
  exact ⟨cells', hcells'⟩

/-- A list of rows is streamed as its encodings. -/
theorem rowStream_eq_ofList {heap : AsyncHeap} {rows : PyObj} {list : List (List Cell)} (hlist : heap.Lists rows list)
    (h : ∀ n, (∀ i < n, (heap.advance rows i).IsRow) → Emits heap rows n (heap.advance rows n)) :
    rowStream heap rows = .ofList (list.map fun cells => .ok (encodeDataRow cells)) := by
  have hrows : ∀ n ≤ list.length, ∀ i < n, (heap.advance rows i).IsRow := fun n hn i hi => ⟨_, hlist.1 i (by omega)⟩
  ext n : 1
  rw [Stream'.Seq.ofList_get?, List.getElem?_map]
  rcases Nat.lt_or_ge n list.length with hn | hn
  · have hemits := h n (hrows n hn.le)
    rw [hlist.1 n hn] at hemits
    rw [List.getElem?_eq_getElem hn]
    exact hemits
  · have hemits := h list.length (hrows _ le_rfl)
    rw [hlist.2] at hemits
    rw [List.getElem?_eq_none hn]
    exact Stream'.Seq.le_stable _ hn hemits.1

theorem StreamsIteration.answersAlike {heap : AsyncHeap} {rows : PyObj} (h : StreamsIteration heap rows) :
    AnswersAlike heap rows := by
  intro n
  induction n using Nat.strong_induction_on with
  | _ n ih =>
    intro hrows
    have hanswers : AnswersRows heap rows n :=
      answersRows_of_answered hrows fun i hi => ih i hi fun j hj => hrows j (hj.trans hi)
    exact (hanswers.emits_iff _).mp (h.1 n hrows)

theorem AnswersAlike.streamsIteration {heap : AsyncHeap} {rows : PyObj} (h : AnswersAlike heap rows) :
    StreamsIteration heap rows := by
  have hemits : ∀ n, (∀ i < n, (heap.advance rows i).IsRow) → Emits heap rows n (heap.advance rows n) := by
    intro n hrows
    have hanswers : AnswersRows heap rows n :=
      answersRows_of_answered hrows fun i hi => h i fun j hj => hrows j (hj.trans hi)
    exact (hanswers.emits_iff _).mpr (h n hrows)
  refine ⟨hemits, fun list hlist fields commandTag => ?_⟩
  show some (rowStream heap rows) = some (.ofList _)
  rw [rowStream_eq_ofList hlist hemits]

/-- **Streaming is async iteration** exactly for the objects that answer like their iterators. -/
theorem stream_iterates_iff (heap : AsyncHeap) (rows : PyObj) : StreamsIteration heap rows ↔ AnswersAlike heap rows :=
  ⟨StreamsIteration.answersAlike, AnswersAlike.streamsIteration⟩

/-- Iterators whose end is raised when they are awaited. -/
theorem stream_iterates_of_iterator {heap : AsyncHeap} {rows : PyObj} (hself : heap.aiter rows = rows)
    (hstop : ∀ n err, heap.anext rows n = .raised err → ¬ err.isInstance .stopAsyncIteration) :
    StreamsIteration heap rows := by
  refine AnswersAlike.streamsIteration fun n _ => ?_
  rw [AsyncHeap.advance, hself]
  rcases hanext : heap.anext rows n with err | err | err | cells
  · simp [Anext.advance, Advance.Answered, hstop n err hanext]
  · by_cases hend : err.isInstance .stopAsyncIteration
    · simp [Anext.advance, Advance.Answered, hend]
    · simp [Anext.advance, Advance.Answered, hend]
  · simp [Anext.advance, Advance.Answered]
  · simp [Anext.advance, Advance.Answered]

/-- Object 0 has no `__anext__`; its iterator, object 1, gives the row `42` and stops. -/
def iterableOnly : AsyncHeap where
  aiter _ := ⟨1⟩
  anext
    | ⟨1⟩, 0 => .value (.ok [some [52, 50]])
    | ⟨1⟩, _ => .failed ⟨.stopAsyncIteration, PyClass.exceptionBases, ""⟩
    | _, _ =>
      .raised ⟨⟨"builtins", "AttributeError"⟩, PyClass.exceptionBases, "'Rows' object has no attribute '__anext__'"⟩

/-- The rows of an iterable that is not its own iterator are not streamed. -/
theorem stream_iterates_fails : ¬ ∀ heap rows, StreamsIteration heap rows := by
  intro h
  obtain ⟨cells, hcells, -⟩ := (h iterableOnly ⟨0⟩).answersAlike 0 (by omega)
  cases hcells

end Pywire
