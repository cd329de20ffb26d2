import Kaomoji.Proofs.ScannerRun
import Kaomoji.Proofs.TokenStream

/-!
# Calls of both kinds

A scanner is asked in two ways.  A call for a token is always answered, behind errors and behind the
end of the text too; a step of a run is answered until a step has yielded the end of the text or an
error.  Both go the same way through the text, and calls may be mixed as one likes.

What keeps the two apart is the flag `finished`.  Scanning does not look at it
(`nextToken_withFinished`), so behind any calls the scanner is, up to the flag, the one behind some
number of calls for a token (`exists_behind_eq`).  Only steps set it, and only by what they yield
themselves (`finished_behind_iff`).  That the end of the text is answered alike from then on does
not hang on the flag at all: nothing is left to be read (`AtEnd`).
-/

namespace Kaomoji.Scanner

/-! ## Scanning does not look at the flag -/

/-- The scanner with its flag set as given. -/
def withFinished (s : Scanner) (finished : Bool) : Scanner := { s with finished }

lemma peeked_withFinished (s : Scanner) (flag : Bool) :
    (s.withFinished flag).peeked = s.peeked.withFinished flag := by
  obtain ⟨unread, cursor, held, origin, last, finished⟩ := s
  rcases held with _ | found
  · cases unread <;> rfl
  · rfl

/-- **The flag is carried along by a call for a token**, which neither reads nor sets it. -/
lemma nextToken_withFinished {s : Scanner} (hs : s.Coherent) (flag : Bool) :
    (s.withFinished flag).nextToken = (s.nextToken.1, s.nextToken.2.withFinished flag) := by
  induction hn : s.remaining.length using Nat.strong_induction_on generalizing s with
  | _ n ih =>
    -- what is skipped is a single character, behind which the call goes on
    have hskip {c : Char} (hc : [c] <+: s.remaining) :
        ((s.withFinished flag).past [c]).nextToken =
          ((s.past [c]).nextToken.1, (s.past [c]).nextToken.2.withFinished flag) := by
      have hpast := reads_past hc
      refine ih _ ?_ hpast.coherent rfl
      rw [← hn, hpast.remaining, List.length_append, List.length_singleton]
      omega
    have hprefix := longestLexeme_extent_prefix s.remaining
    have hflagged : (s.withFinished flag).nextToken =
        (s.withFinished flag).respond (longestLexeme s.remaining) := nextToken_eq hs
    rw [hflagged, nextToken_eq hs]
    cases hlexeme : longestLexeme s.remaining with
    | textEnd | faulty _ _ => rfl
    | blank c =>
      rw [hlexeme] at hprefix
      exact hskip hprefix
    | lineEnd =>
      rw [hlexeme] at hprefix
      by_cases hlast : s.lastIs .newLine
      · have hlast' : (s.withFinished flag).lastIs .newLine := hlast
        rw [respond, respond, if_pos hlast, if_pos hlast']
        exact hskip hprefix
      · have hlast' : ¬(s.withFinished flag).lastIs .newLine := hlast
        rw [respond, respond, if_neg hlast, if_neg hlast']
        rfl
    | name text | number text =>
      have hpeeked : ((s.withFinished flag).past text).peeked =
          (s.past text).peeked.withFinished flag := peeked_withFinished (s.past text) flag
      rw [respond, respond, hpeeked]
      rfl

/-! ## One call -/

/-- The two ways to ask a scanner for what comes next. -/
inductive Call where
  /-- Asks for the next token. -/
  | token
  /-- Asks for the next step of a run over the tokens. -/
  | step
deriving DecidableEq

/-- What a call is answered, and the scanner behind it. -/
def call (s : Scanner) : Call → Option (Except LexicalError Token) × Scanner
  | .token => (some s.nextToken.1, s.nextToken.2)
  | .step => s.next?

/-- Whether a run that yields a result is over. -/
def endsRun : Except LexicalError Token → Bool
  | .ok token => token.tag = .endOfFile
  | .error _ => true

lemma next?_of_finished {s : Scanner} (h : s.finished = true) : s.next? = (none, s) := by
  rw [next?, if_pos h]

lemma next?_eq_none_iff (s : Scanner) : s.next?.1 = none ↔ s.finished = true := by
  cases hfinished : s.finished with
  | false => simp [next?_of_not_finished hfinished]
  | true => simp [next?_of_finished hfinished]

/-- **What a call can do.** -/
lemma call_cases (s : Scanner) (call : Call) :
    (call = .token ∧ s.call call = (some s.nextToken.1, s.nextToken.2)) ∨
    (call = .step ∧ s.finished = false ∧
      s.call call =
        (some s.nextToken.1, s.nextToken.2.withFinished (endsRun s.nextToken.1))) ∨
    (call = .step ∧ s.finished = true ∧ s.call call = (none, s)) := by
  cases call with
  | token => exact Or.inl ⟨rfl, rfl⟩
  | step =>
    cases hfinished : s.finished with
    | false =>
      refine Or.inr (Or.inl ⟨rfl, rfl, (next?_of_not_finished hfinished).trans ?_⟩)
      cases s.nextToken.1 <;> rfl
    | true => exact Or.inr (Or.inr ⟨rfl, rfl, next?_of_finished hfinished⟩)

/-- A call is answered by the next token or error, or it is not answered and changes nothing. -/
lemma call_eq_or (s : Scanner) (call : Call) :
    (∃ flag, s.call call = (some s.nextToken.1, s.nextToken.2.withFinished flag)) ∨
    s.call call = (none, s) := by
  obtain ⟨-, hcall⟩ | ⟨-, -, hcall⟩ | ⟨-, -, hcall⟩ := s.call_cases call
  · exact Or.inl ⟨s.nextToken.2.finished, hcall⟩
  · exact Or.inl ⟨_, hcall⟩
  · exact Or.inr hcall

lemma StandsIn.withFinished {s : Scanner} {text : List Char} (hs : s.StandsIn text) (flag : Bool) :
    (s.withFinished flag).StandsIn text :=
  ⟨hs.coherent, hs.index_le, hs.remaining, hs.position⟩

/-- A call of either kind keeps the scanner in its text. -/
lemma StandsIn.call {s : Scanner} {text : List Char} (hs : s.StandsIn text) (call : Call) :
    (s.call call).2.StandsIn text := by
  obtain ⟨flag, hcall⟩ | hcall := s.call_eq_or call
  · rw [hcall]
    exact hs.nextToken.withFinished flag
  · rw [hcall]
    exact hs

/-! ## Any number of calls -/

/-- The scanner behind calls made one after another. -/
def behind (s : Scanner) : List Call → Scanner
  | [] => s
  | call :: later => (s.call call).2.behind later

/-- Calls made one after another, each with its answer. -/
def transcript (s : Scanner) : List Call → List (Call × Option (Except LexicalError Token))
  | [] => []
  | call :: later => (call, (s.call call).1) :: (s.call call).2.transcript later

/-- What the first `n` calls for a token return if no other calls are made. -/
def results (s : Scanner) (n : Nat) : List (Except LexicalError Token) :=
  (List.range n).map fun i => (s.afterCalls i).nextToken.1

lemma behind_concat (s : Scanner) (calls : List Call) (call : Call) :
    s.behind (calls ++ [call]) = ((s.behind calls).call call).2 := by
  induction calls generalizing s with
  | nil => rfl
  | cons first later ih => exact ih _

lemma transcript_concat (s : Scanner) (calls : List Call) (call : Call) :
    s.transcript (calls ++ [call]) =
      s.transcript calls ++ [(call, ((s.behind calls).call call).1)] := by
  induction calls generalizing s with
  | nil => rfl
  | cons first later ih => exact congrArg _ (ih _)

lemma results_succ (s : Scanner) (n : Nat) :
    s.results (n + 1) = s.results n ++ [(s.afterCalls n).nextToken.1] := by
  rw [results, results, List.range_succ, List.map_append, List.map_singleton]

lemma results_prefix (s : Scanner) {n m : Nat} (h : n ≤ m) : s.results n <+: s.results m := by
  obtain ⟨k, rfl⟩ := Nat.exists_eq_add_of_le h
  rw [results, results, List.range_add, List.map_append]
  exact List.prefix_append _ _

section

variable {s : Scanner} {text : List Char}

lemma StandsIn.behind (hs : s.StandsIn text) (calls : List Call) :
    (s.behind calls).StandsIn text := by
  induction calls generalizing s with
  | nil => exact hs
  | cons call later ih => exact ih (hs.call call)

/-- **Calls of both kinds go one way.**  What they are answered is what calls for a token alone
return, as many of them as there were answers, and so is the scanner behind them but for its
flag. -/
lemma exists_behind_eq (hs : s.StandsIn text) (calls : List Call) :
    ∃ n ≤ calls.length, (s.transcript calls).filterMap Prod.snd = s.results n ∧
      s.behind calls = (s.afterCalls n).withFinished (s.behind calls).finished := by
  induction calls using List.reverseRecOn with
  | nil => exact ⟨0, le_refl _, rfl, rfl⟩
  | append_singleton calls call ih =>
    obtain ⟨n, hn, hanswers, hbehind⟩ := ih
    have hnext : (s.behind calls).nextToken = ((s.afterCalls n).nextToken.1,
        (s.afterCalls (n + 1)).withFinished (s.behind calls).finished) := by
      nth_rewrite 1 [hbehind]
      exact nextToken_withFinished (hs.afterCalls n).coherent _
    rw [behind_concat, transcript_concat, List.filterMap_append, hanswers, List.length_append]
    obtain ⟨flag, hcall⟩ | hcall := (s.behind calls).call_eq_or call
    · refine ⟨n + 1, Nat.succ_le_succ hn, ?_, ?_⟩
      · rw [hcall, hnext, results_succ]
        rfl
      · rw [hcall, hnext]
        rfl
    · refine ⟨n, Nat.le_succ_of_le hn, ?_, ?_⟩
      · rw [hcall]
        exact List.append_nil _
      · rw [hcall]
        exact hbehind

/-- **The flag is set by what a step yields** and by nothing else. -/
lemma finished_behind_iff (hs : s.StandsIn text) (hopen : s.finished = false) (calls : List Call) :
    (s.behind calls).finished = true ↔
      ∃ result, (.step, some result) ∈ s.transcript calls ∧ endsRun result := by
  induction calls using List.reverseRecOn with
  | nil => simp [Scanner.behind, transcript, hopen]
  | append_singleton calls call ih =>
    obtain ⟨taken, hreads⟩ := exists_reads_nextToken (hs.behind calls).coherent
    rw [behind_concat, transcript_concat]
    obtain ⟨rfl, hcall⟩ | ⟨rfl, hfinished, hcall⟩ | ⟨rfl, hfinished, hcall⟩ :=
      (s.behind calls).call_cases call
    · rw [hcall, hreads.finished, ih]
      simp
    · -- the run was open, so that no step before has ended it
      have hnone : ¬∃ result, (.step, some result) ∈ s.transcript calls ∧ endsRun result := by
        rw [← ih, hfinished]
        exact Bool.false_ne_true
      rw [hcall]
      simp only [List.mem_append, or_and_right, exists_or, hnone, false_or, List.mem_singleton,
        Prod.mk.injEq, true_and, Option.some.injEq, exists_eq_left]
      rfl
    · rw [hcall, ih]
      simp

/-! ## Behind the end of the text -/

/-- Nothing is left to be read, and `token` is the end of the text where the scanner stands. -/
structure AtEnd (s : Scanner) (token : Token) : Prop where
  remaining : s.remaining = []
  token_eq : token = ⟨.endOfFile, s.position, 0, s.origin⟩

/-- At the end of the text a call for a token returns that end and moves nothing. -/
lemma AtEnd.nextToken_eq {token : Token} (h : s.AtEnd token) :
    s.nextToken = (.ok token, { s with last := some token }) := by
  have hposition : s.cursor = s.position := by simp [Scanner.position, held_eq_none h.remaining]
  rw [nextToken_of_draw_none (draw_nil h.remaining), h.token_eq, ← hposition]
  rfl

/-- A call of either kind leaves the scanner at the end of the text. -/
lemma AtEnd.call {token : Token} (h : s.AtEnd token) (call : Call) :
    (s.call call).2.AtEnd token := by
  obtain ⟨flag, hcall⟩ | hcall := s.call_eq_or call
  · rw [hcall, h.nextToken_eq]
    exact ⟨h.remaining, h.token_eq⟩
  · rw [hcall]
    exact h

lemma AtEnd.behind {token : Token} (h : s.AtEnd token) (calls : List Call) :
    (s.behind calls).AtEnd token := by
  induction calls generalizing s with
  | nil => exact h
  | cons call later ih => exact ih (h.call call)

/-- A scanner that answers with the end of the text is there. -/
lemma atEnd_of_call (hs : s.Coherent) {call : Call} {token : Token}
    (h : (s.call call).1 = some (.ok token)) (htag : token.tag = .endOfFile) :
    (s.call call).2.AtEnd token := by
  obtain ⟨flag, hcall⟩ | hcall := s.call_eq_or call
  · rw [hcall] at h ⊢
    have hnext : s.nextToken.1 = .ok token := Option.some.inj h
    obtain ⟨gap, t, -, ⟨hnil, hmake⟩ | ⟨kind, taken, u, -, hkind, hmake⟩ |
      ⟨read, fault, -, hfail⟩⟩ := nextToken_cases hs
    · rw [hmake] at hnext ⊢
      cases hnext
      exact ⟨hnil, rfl⟩
    · rw [hmake] at hnext
      cases hnext
      have hkind' : kind.tag = .endOfFile := htag
      rw [hkind'] at hkind
      exact absurd hkind (by decide)
    · rw [hfail] at hnext
      cases hnext
  · rw [hcall] at h
    cases h

/-- **Once the end of the text has been answered the scanner stays there**, whatever is asked. -/
lemma atEnd_behind (hs : s.StandsIn text) {calls : List Call} {call : Call} {token : Token}
    (h : (call, some (.ok token)) ∈ s.transcript calls) (htag : token.tag = .endOfFile) :
    (s.behind calls).AtEnd token := by
  induction calls generalizing s with
  | nil => cases h
  | cons first later ih =>
    rcases List.mem_cons.1 h with hfirst | hlater
    · obtain ⟨rfl, hanswer⟩ := Prod.mk.inj hfirst
      exact (atEnd_of_call hs.coherent hanswer.symm htag).behind later
    · exact ih (hs.call first) hlater

end

/-! ## All calls -/

/-- What is true behind calls of both kinds, of their answers and of the call that is made next. -/
structure AnswersInOrder (s : Scanner) (calls : List Call) : Prop where
  /-- The answers are those that calls for a token alone return, from the first one on. -/
  answers : (s.transcript calls).filterMap Prod.snd <+: s.results calls.length
  /-- A step is not answered exactly if a step before has yielded the end of the text or an
  error. -/
  unanswered_iff : (s.behind calls).next?.1 = none ↔
    ∃ result, (.step, some result) ∈ s.transcript calls ∧ endsRun result
  /-- A step that is not answered changes nothing. -/
  unanswered : (s.behind calls).next?.1 = none → (s.behind calls).next?.2 = s.behind calls
  /-- Once the end of the text has been answered, to either kind of call, every call for a token
  returns it again and stays where the scanner is. -/
  atEnd : ∀ call token, (call, some (.ok token)) ∈ s.transcript calls → token.tag = .endOfFile →
    (s.behind calls).nextToken.1 = .ok token ∧
      (s.behind calls).nextToken.2.position = (s.behind calls).position

/-- **Calls of both kinds can be mixed.**  However they are, their answers are those of the one way
through the text; steps go unanswered from the first on that has yielded the end of the text or an
error, whatever calls for a token did before or do after; and the end of the text, once reached, is
answered alike for ever. -/
theorem answersInOrder_of_calls (source : String) (origin : Origin) (calls : List Call) :
    (ofText source.toList origin).AnswersInOrder calls := by
  have hs := standsIn_ofText source.toList origin
  have hfinished := finished_behind_iff hs rfl calls
  obtain ⟨n, hn, hanswers, -⟩ := exists_behind_eq hs calls
  constructor
  · rw [hanswers]
    exact results_prefix _ hn
  · exact (next?_eq_none_iff _).trans hfinished
  · intro h
    rw [next?_of_finished ((next?_eq_none_iff _).1 h)]
  · intro call token hmem htag
    rw [(atEnd_behind hs hmem htag).nextToken_eq]
    exact ⟨rfl, rfl⟩

/-- Behind an error that a step has yielded calls for a token go on, and steps do not. -/
theorem answersInOrder_of_calls_behind_error :
    let s := ofText "? x".toList .inMemory
    let calls : List Call := [.step, .token, .step, .token]
    s.transcript calls =
        [(.step, some (.error ⟨.unknownCharacter '?', ⟨0, 0, 0⟩, .inMemory⟩)),
          (.token, some (.ok ⟨.name "x", ⟨0, 2, 2⟩, 1, .inMemory⟩)), (.step, none),
          (.token, some (.ok ⟨.endOfFile, ⟨0, 3, 3⟩, 0, .inMemory⟩))] ∧
      (s.behind calls).next?.1 = none ∧
      (s.behind calls).nextToken.1 = .ok ⟨.endOfFile, ⟨0, 3, 3⟩, 0, .inMemory⟩ := by
  intro s calls
  have htranscript : s.transcript calls =
      [(.step, some (.error ⟨.unknownCharacter '?', ⟨0, 0, 0⟩, .inMemory⟩)),
        (.token, some (.ok ⟨.name "x", ⟨0, 2, 2⟩, 1, .inMemory⟩)), (.step, none),
        (.token, some (.ok ⟨.endOfFile, ⟨0, 3, 3⟩, 0, .inMemory⟩))] := by
    decide +kernel
  have horder := answersInOrder_of_calls "? x" .inMemory calls
  refine ⟨htranscript, horder.unanswered_iff.2 ?_, (horder.atEnd .token _ ?_ rfl).1⟩
  · exact ⟨_, htranscript ▸ List.mem_cons_self, rfl⟩
  · exact htranscript ▸ by simp

end Kaomoji.Scanner
