import Kaomoji.Proofs.LimitedOutput

/-!
# Declarations whose line is refused

In C a variable counts as declared from the moment its line is begun.  When the sink then refuses
the line, the generator goes on with a variable that the text does not declare, and no later error
takes it back.  A call may then pass the check of its arguments and fail only when it is written.

It does fail.  A refusal leaves a sink without room for the declaration, and a sink never has more
room than before; a call that names the variable is longer than the declaration, whatever the
indentation of the two, so its line is refused as well.  This is the invariant `Tracked.Sound`: each
declared variable has its line, or its line does not fit any more.  A step keeps it
(`Tracked.Sound.after`), hence a run does (`Tracked.Sound.run`), and
`Tracked.Sound.call_refused` is what it is for.
-/

namespace Kaomoji

/-! ## Room in a sink -/

namespace Sink

/-- The later sink has the limit of the first and holds no less. -/
structure Grows (sink later : Sink) : Prop where
  limit : later.limit = sink.limit
  size : sink.text.utf8ByteSize ≤ later.text.utf8ByteSize

lemma Grows.refl (sink : Sink) : sink.Grows sink := ⟨rfl, le_rfl⟩

lemma Grows.trans {sink later last : Sink} (h : sink.Grows later) (h' : later.Grows last) :
    sink.Grows last := ⟨h'.limit.trans h.limit, h.size.trans h'.size⟩

/-- **No room is won back**: where a piece was refused, one that is no shorter is refused later. -/
lemma Grows.not_accepts {sink later : Sink} (h : sink.Grows later) {piece longer : String}
    (hpiece : piece.utf8ByteSize ≤ longer.utf8ByteSize) (hrefused : sink.accepts piece = false) :
    later.accepts longer = false := by
  have hsize := h.size
  rw [accepts] at hrefused ⊢
  rw [h.limit]
  rcases hlimit : sink.limit with _ | limit
  · simp [hlimit] at hrefused
  · simp only [hlimit, Option.all_some, decide_eq_false_iff_not] at hrefused ⊢
    omega

/-- What is written are the first of the pieces. -/
lemma exists_write_eq (sink : Sink) (pieces : List String) :
    ∃ n, (sink.write pieces).2 =
      { sink with text := sink.text ++ String.join (pieces.take n) } := by
  induction pieces generalizing sink with
  | nil => exact ⟨0, by simp [write]⟩
  | cons piece rest ih =>
    by_cases haccepts : sink.accepts piece
    · obtain ⟨n, hn⟩ := ih { sink with text := sink.text ++ piece }
      refine ⟨n + 1, ?_⟩
      rw [write, if_pos haccepts, hn]
      simp [String.append_assoc]
    · exact ⟨0, by simp [write, haccepts]⟩

lemma grows_write (sink : Sink) (pieces : List String) : sink.Grows (sink.write pieces).2 := by
  obtain ⟨n, hn⟩ := sink.exists_write_eq pieces
  rw [hn]
  refine ⟨rfl, ?_⟩
  rw [String.utf8ByteSize_append]
  exact Nat.le_add_right _ _

/-- A refusal is for want of room for one of the pieces. -/
lemma exists_not_accepts {sink : Sink} {pieces : List String} (h : (sink.write pieces).1 = false) :
    ∃ piece ∈ pieces, (sink.write pieces).2.accepts piece = false := by
  induction pieces generalizing sink with
  | nil => simp [write] at h
  | cons piece rest ih =>
    by_cases haccepts : sink.accepts piece
    · rw [write, if_pos haccepts] at h ⊢
      obtain ⟨refused, hmem, hrefused⟩ := ih h
      exact ⟨refused, List.mem_cons_of_mem _ hmem, hrefused⟩
    · refine ⟨piece, List.mem_cons_self, ?_⟩
      rw [write, if_neg haccepts]
      simpa using haccepts

end Sink

/-- **A line that does not fit leaves nothing but indentation.** -/
lemma Session.perform_writeLine_of_not_accepts (session : Session) {line : String}
    (hline : line ≠ "") (hrefused : session.writer.sink.accepts line = false) :
    ∃ later n, session.perform (Emit.writeLine line) = (.error .refusedWrite, later) ∧
      later.writer.sink.text =
        session.writer.sink.text ++ String.join (List.replicate n Writer.indentUnit) := by
  have hgrows :=
    session.writer.sink.grows_write (List.replicate session.writer.indent Writer.indentUnit)
  obtain ⟨n, hn⟩ :=
    session.writer.sink.exists_write_eq (List.replicate session.writer.indent Writer.indentUnit)
  rw [List.take_replicate] at hn
  have hwrite : session.writer.sink.write (Writer.linePieces session.writer.indent line) =
      (false, (session.writer.sink.write
        (List.replicate session.writer.indent Writer.indentUnit)).2) := by
    rw [Writer.linePieces, if_neg hline, Sink.write_append, Sink.write,
      hgrows.not_accepts le_rfl hrefused]
    simp
  rw [perform_writeLine, Writer.writeLine, hwrite, hn]
  exact ⟨_, _, rfl, rfl⟩

/-! ## What requests do to a session -/

/-- **What can be asked of a generator at work**, one thing at a time; a whole program is asked for
statement by statement, up to the first that fails. -/
inductive Session.Request where
  | prologue
  | epilogue
  | indent
  | dedent
  /-- A line that the caller has written. -/
  | line (text : String)
  | statement (s : Statement)

/-- What is done about a request. -/
def Session.Request.emission : Session.Request → Emit Unit
  | prologue => Emit.prologue
  | epilogue => Emit.epilogue
  | indent => Emit.indent
  | dedent => Emit.dedent
  | line text => Emit.writeLine text
  | statement s => Emit.statement s

/-- An emission that writes and leaves the generator alone. -/
def Emit.OnlyWrites (emission : Emit Unit) : Prop :=
  ∀ session : Session, (session.perform emission).2.generator = session.generator ∧
    session.writer.sink.Grows (session.perform emission).2.writer.sink

namespace Emit

lemma onlyWrites_pure : OnlyWrites (pure ()) := fun _ => ⟨rfl, Sink.Grows.refl _⟩

lemma onlyWrites_indent : indent.OnlyWrites := fun _ => ⟨rfl, Sink.Grows.refl _⟩

lemma onlyWrites_dedent : dedent.OnlyWrites := fun _ => ⟨rfl, Sink.Grows.refl _⟩

lemma onlyWrites_writeLine (line : String) : (writeLine line).OnlyWrites := by
  intro session
  have hgrows := session.writer.sink.grows_write (Writer.linePieces session.writer.indent line)
  rw [Session.perform_writeLine, Writer.writeLine]
  rcases hwrite : session.writer.sink.write (Writer.linePieces session.writer.indent line) with
    ⟨_ | _, sink⟩
  all_goals
    rw [hwrite] at hgrows
    exact ⟨rfl, hgrows⟩

lemma OnlyWrites.bind {first : Emit Unit} {second : Unit → Emit Unit} (hfirst : first.OnlyWrites)
    (hsecond : (second ()).OnlyWrites) : (first >>= second).OnlyWrites := by
  intro session
  obtain ⟨hgenerator, hgrows⟩ := hfirst session
  rcases hperform : session.perform first with ⟨e | _, later⟩
  · rw [hperform] at hgenerator hgrows
    rw [Session.perform_bind_of_error hperform]
    exact ⟨hgenerator, hgrows⟩
  · rw [hperform] at hgenerator hgrows
    rw [Session.perform_bind_of_ok hperform]
    obtain ⟨hgenerator', hgrows'⟩ := hsecond later
    exact ⟨hgenerator'.trans hgenerator, hgrows.trans hgrows'⟩

lemma onlyWrites_get {next : Session → Emit Unit} (h : ∀ session, (next session).OnlyWrites) :
    OnlyWrites (get >>= next) := fun session => h session session

lemma onlyWrites_epilogue : epilogue.OnlyWrites := by
  refine onlyWrites_get fun session => ?_
  cases session.generator.target with
  | python => exact onlyWrites_pure
  | c => exact (onlyWrites_writeLine _).bind (onlyWrites_dedent.bind (onlyWrites_writeLine _))

end Emit

namespace Session

lemma generator_perform_setScope_bind (scope : Scope) {next : Unit → Emit Unit}
    (h : (next ()).OnlyWrites) (session : Session) :
    (session.perform (Emit.setScope scope >>= next)).2.generator =
      ⟨session.generator.target, scope⟩ :=
  (h ⟨⟨session.generator.target, scope⟩, session.writer⟩).1

/-- However a prologue ends, it has forgotten the variables. -/
lemma generator_perform_prologue (session : Session) :
    (session.perform Emit.prologue).2.generator = ⟨session.generator.target, []⟩ := by
  refine generator_perform_setScope_bind [] ?_ session
  refine Emit.onlyWrites_get fun session => ?_
  cases session.generator.target with
  | python => exact Emit.onlyWrites_pure
  | c =>
    exact (Emit.onlyWrites_writeLine _).bind ((Emit.onlyWrites_writeLine _).bind
      ((Emit.onlyWrites_writeLine _).bind Emit.onlyWrites_indent))

/-- A C statement that cannot be expressed changes nothing. -/
lemma perform_statement_of_error {scope : Scope} {writer : Writer} {s : Statement} {e : EmitError}
    (h : Target.cLine scope s = .error e) :
    perform ⟨⟨.c, scope⟩, writer⟩ (Emit.statement s) = (.error e, ⟨⟨.c, scope⟩, writer⟩) := by
  have hline : Target.c.line scope s = .error e := h
  rw [perform_statement]
  dsimp only
  rw [hline]

lemma perform_statement_of_ok {scope later : Scope} {writer : Writer} {s : Statement}
    {line : String} (h : Target.cLine scope s = .ok (line, later)) :
    perform ⟨⟨.c, scope⟩, writer⟩ (Emit.statement s) =
      perform ⟨⟨.c, later⟩, writer⟩ (Emit.writeLine line) := by
  have hline : Target.c.line scope s = .ok (line, later) := h
  rw [perform_statement]
  dsimp only
  rw [hline]

end Session

/-! ## Declarations -/

/-- The line that declares a name in C. -/
def Target.declarationLine (name : String) : String := "int " ++ (sanitize name ++ " = 0") ++ ";"

lemma Target.cLine_declaration (scope : Scope) (type : DeclaredType) (target : Identifier) :
    cLine scope (.declaration type target) =
      .ok (declarationLine target.name, (target.name, cType type) :: scope) := by
  match h : cLine scope (.declaration type target) with
  | .ok (line, later) =>
    obtain ⟨_, _, _, hs, -⟩ | ⟨_, _, hs, rfl, rfl⟩ | ⟨_, _, _, hs, -⟩ := cLine_cases h
    · cases hs
    · cases hs
      rfl
    · cases hs
  | .error e => cases h

lemma Target.utf8ByteSize_declarationLine (name : String) :
    (declarationLine name).utf8ByteSize = (sanitize name).utf8ByteSize + 9 := by
  have hmarks : "int ".utf8ByteSize = 4 ∧ " = 0".utf8ByteSize = 4 ∧ ";".utf8ByteSize = 1 := by
    decide
  simp only [declarationLine, String.utf8ByteSize_append]
  omega

/-- No piece of a declaration is longer than its text. -/
lemma Target.utf8ByteSize_le_of_mem_linePieces {indent : Nat} {name piece : String}
    (h : piece ∈ Writer.linePieces indent (declarationLine name)) :
    piece.utf8ByteSize ≤ (declarationLine name).utf8ByteSize := by
  have hsize := utf8ByteSize_declarationLine name
  rw [Writer.linePieces, List.mem_append, List.mem_cons, List.mem_singleton] at h
  obtain hindent | rfl | rfl := h
  · split at hindent
    · cases hindent
    · obtain rfl := List.eq_of_mem_replicate hindent
      have hunit : Writer.indentUnit.utf8ByteSize = 4 := by decide
      omega
  · exact le_rfl
  · have hnewline : "\n".utf8ByteSize = 1 := by decide
    omega

/-- **A declaration is written completely, or there is no room for it behind what is written.**  The
variable counts as declared in either case. -/
lemma Session.perform_declaration (scope : Scope) (writer : Writer) (type : DeclaredType)
    (target : Identifier) :
    ∃ later : Writer, writer.sink.Grows later.sink ∧
      (perform ⟨⟨.c, scope⟩, writer⟩ (Emit.statement (.declaration type target)) =
          (.ok (), ⟨⟨.c, (target.name, Target.cType type) :: scope⟩, later⟩) ∨
        perform ⟨⟨.c, scope⟩, writer⟩ (Emit.statement (.declaration type target)) =
          (.error .refusedWrite, ⟨⟨.c, (target.name, Target.cType type) :: scope⟩, later⟩) ∧
        later.sink.accepts (Target.declarationLine target.name) = false) := by
  have hgrows := writer.sink.grows_write
    (Writer.linePieces writer.indent (Target.declarationLine target.name))
  rw [perform_statement_of_ok (Target.cLine_declaration scope type target), perform_writeLine,
    Writer.writeLine]
  dsimp only
  rcases hwrite : writer.sink.write
      (Writer.linePieces writer.indent (Target.declarationLine target.name)) with ⟨_ | _, sink⟩
  · obtain ⟨piece, hpiece, hrefused⟩ := Sink.exists_not_accepts (congrArg Prod.fst hwrite)
    rw [hwrite] at hgrows hrefused
    refine ⟨_, hgrows, Or.inr ⟨rfl, ?_⟩⟩
    exact (Sink.Grows.refl sink).not_accepts (Target.utf8ByteSize_le_of_mem_linePieces hpiece)
      hrefused
  · rw [hwrite] at hgrows
    exact ⟨_, hgrows, Or.inl rfl⟩

/-- Other statements leave the variables as they are, however they end. -/
lemma Session.perform_of_not_declaration {s : Statement}
    (hs : ∀ type target, s ≠ .declaration type target) (scope : Scope) (writer : Writer) :
    (perform ⟨⟨.c, scope⟩, writer⟩ (Emit.statement s)).2.generator = ⟨.c, scope⟩ ∧
      writer.sink.Grows (perform ⟨⟨.c, scope⟩, writer⟩ (Emit.statement s)).2.writer.sink := by
  match h : Target.cLine scope s with
  | .error e =>
    rw [perform_statement_of_error h]
    exact ⟨rfl, Sink.Grows.refl _⟩
  | .ok (line, later) =>
    obtain rfl : later = scope := by
      obtain ⟨_, _, _, -, -, -, -, hlater⟩ | ⟨type, target, rfl, -⟩ | ⟨_, _, _, -, -, hlater⟩ :=
        Target.cLine_cases h
      · exact hlater
      · exact absurd rfl (hs type target)
      · exact hlater
    rw [perform_statement_of_ok h]
    exact Emit.onlyWrites_writeLine line _

/-! ## The declarations that were written -/

/-- The names on record after a request with its result: a prologue begins anew, and a declaration
adds its name when it succeeds. -/
def Session.Request.recorded : Session.Request → Except EmitError Unit → List String → List String
  | prologue, _, _ => []
  | statement (.declaration _ target), .ok (), written => target.name :: written
  | _, _, written => written

lemma Session.Request.recorded_error (s : Statement) (e : EmitError) (written : List String) :
    recorded (statement s) (.error e) written = written := by
  cases s <;> rfl

/-- A session with the names whose declarations have been written completely since the last
prologue. -/
structure Tracked where
  session : Session
  written : List String

namespace Tracked

/-- What follows on a request. -/
def after (tracked : Tracked) (request : Session.Request) : Tracked where
  session := (tracked.session.perform request.emission).2
  written := request.recorded (tracked.session.perform request.emission).1 tracked.written

/-- What follows on some requests, however each of them ends. -/
def run (tracked : Tracked) (requests : List Session.Request) : Tracked :=
  requests.foldl after tracked

/-- **A variable counts as declared only if its line has been written or does not fit.** -/
structure Sound (tracked : Tracked) : Prop where
  target : tracked.session.generator.target = .c
  declared (name : String) (h : name ∈ tracked.session.generator.scope.map Prod.fst) :
    name ∈ tracked.written ∨
      tracked.session.writer.sink.accepts (Target.declarationLine name) = false

lemma sound_of_scope (scope : Scope) (writer : Writer) :
    Sound ⟨⟨⟨.c, scope⟩, writer⟩, scope.map Prod.fst⟩ := ⟨rfl, fun _ h => Or.inl h⟩

namespace Sound

lemma declared_of_grows {session : Session} {written : List String} {sink : Sink}
    (h : Sound ⟨session, written⟩) (hgrows : session.writer.sink.Grows sink) {name : String}
    (hname : name ∈ session.generator.scope.map Prod.fst) :
    name ∈ written ∨ sink.accepts (Target.declarationLine name) = false := by
  obtain hwritten | hfull := h.declared name hname
  · exact Or.inl hwritten
  · exact Or.inr (hgrows.not_accepts le_rfl hfull)

lemma of_grows {session later : Session} {written : List String} (h : Sound ⟨session, written⟩)
    (hlater : later.generator = session.generator ∧
      session.writer.sink.Grows later.writer.sink) : Sound ⟨later, written⟩ where
  target := by
    rw [hlater.1]
    exact h.target
  declared name hname := by
    rw [hlater.1] at hname
    exact h.declared_of_grows hlater.2 hname

lemma declaration {scope : Scope} {writer : Writer} {written : List String}
    (h : Sound ⟨⟨⟨.c, scope⟩, writer⟩, written⟩) (type : DeclaredType) (target : Identifier) :
    Sound (after ⟨⟨⟨.c, scope⟩, writer⟩, written⟩ (.statement (.declaration type target))) := by
  obtain ⟨later, hgrows, hperform | ⟨hperform, hfull⟩⟩ :=
    Session.perform_declaration scope writer type target
  · rw [Tracked.after, Session.Request.emission, hperform]
    refine ⟨rfl, fun name hname => ?_⟩
    obtain rfl | hname := List.mem_cons.1 hname
    · exact Or.inl List.mem_cons_self
    · exact (h.declared_of_grows hgrows hname).imp_left (List.mem_cons_of_mem _)
  · rw [Tracked.after, Session.Request.emission, hperform]
    refine ⟨rfl, fun name hname => ?_⟩
    obtain rfl | hname := List.mem_cons.1 hname
    · exact Or.inr hfull
    · exact h.declared_of_grows hgrows hname

/-- **A request keeps it so.** -/
lemma after {tracked : Tracked} (h : tracked.Sound) (request : Session.Request) :
    (tracked.after request).Sound := by
  obtain ⟨⟨⟨target, scope⟩, writer⟩, written⟩ := tracked
  obtain rfl : target = .c := h.target
  match request with
  | .prologue =>
    have hgenerator := Session.generator_perform_prologue ⟨⟨.c, scope⟩, writer⟩
    refine ⟨congrArg Generator.target hgenerator, fun name hname => ?_⟩
    rw [show (Tracked.after ⟨⟨⟨.c, scope⟩, writer⟩, written⟩ .prologue).session.generator = _
      from hgenerator] at hname
    cases hname
  | .epilogue => exact h.of_grows (Emit.onlyWrites_epilogue ⟨⟨.c, scope⟩, writer⟩)
  | .indent => exact h.of_grows (Emit.onlyWrites_indent ⟨⟨.c, scope⟩, writer⟩)
  | .dedent => exact h.of_grows (Emit.onlyWrites_dedent ⟨⟨.c, scope⟩, writer⟩)
  | .line text => exact h.of_grows (Emit.onlyWrites_writeLine text ⟨⟨.c, scope⟩, writer⟩)
  | .statement (.declaration type target) => exact h.declaration type target
  | .statement (.call callee args) =>
    exact h.of_grows (Session.perform_of_not_declaration (by simp) scope writer)
  | .statement (.extended form args position) =>
    exact h.of_grows (Session.perform_of_not_declaration (by simp) scope writer)

/-- **So do requests one after another**, whether they succeed or fail. -/
lemma run {tracked : Tracked} (h : tracked.Sound) (requests : List Session.Request) :
    (tracked.run requests).Sound := by
  induction requests generalizing tracked with
  | nil => exact h
  | cons request rest ih => exact ih (h.after request)

end Sound

end Tracked

/-! ## Calls -/

lemma utf8ByteSize_le_intercalate {part : String} {parts : List String} (h : part ∈ parts)
    (separator : String) : part.utf8ByteSize ≤ (separator.intercalate parts).utf8ByteSize := by
  induction parts with
  | nil => cases h
  | cons first rest ih =>
    match rest with
    | [] =>
      rw [List.mem_singleton] at h
      rw [h, String.intercalate_singleton]
    | second :: more =>
      rw [String.intercalate_cons_cons, String.utf8ByteSize_append, String.utf8ByteSize_append]
      obtain rfl | h := List.mem_cons.1 h
      · omega
      · have hrest := ih h
        omega

namespace Target

/-- A call that names a variable is longer than the declaration of the variable. -/
lemma utf8ByteSize_declarationLine_le {args : List Leaf} {id : Identifier}
    (hid : .identifier id ∈ args) (format : String) :
    (declarationLine id.name).utf8ByteSize ≤
      ("printf(" ++ ", ".intercalate (format :: args.map Leaf.word) ++ ");").utf8ByteSize := by
  have hword : sanitize id.name ∈ format :: args.map Leaf.word :=
    List.mem_cons_of_mem _ (List.mem_map.2 ⟨_, hid, rfl⟩)
  have hle := utf8ByteSize_le_intercalate hword ", "
  rw [utf8ByteSize_declarationLine, String.utf8ByteSize_append, String.utf8ByteSize_append]
  have hmarks : "printf(".utf8ByteSize = 7 ∧ ");".utf8ByteSize = 2 := by decide
  omega

/-- The C target writes a call only if its variables are declared. -/
lemma mem_scope_of_cLine {scope later : Scope} {callee : Identifier} {args : List Leaf}
    {line : String} (h : cLine scope (.call callee args) = .ok (line, later))
    {id : Identifier} (hid : .identifier id ∈ args) : id.name ∈ scope.map Prod.fst := by
  by_contra hname
  have hlookup : scope.lookup id.name = none := by
    rw [List.lookup_eq_none_iff]
    intro entry hentry
    rw [bne_iff_ne]
    intro heq
    exact hname (List.mem_map.2 ⟨entry, hentry, heq.symm⟩)
  have herror : placeholder scope (.identifier id) =
      .error (.unknownVariable id.name id.position) := by
    rw [placeholder, typeOf, hlookup]
    rfl
  obtain ⟨_, _, placeholders, hcall, -, hplaceholders, -⟩ | ⟨_, _, hdeclaration, -⟩ |
    ⟨_, _, _, hsum, -⟩ := cLine_cases h
  · cases hcall
    obtain ⟨text, htext⟩ := exists_of_mapM_eq_ok hplaceholders hid
    rw [herror] at htext
    cases htext
  · cases hdeclaration
  · cases hsum

end Target

/-- **A call that names a variable without a line fails**, and leaves nothing of its own line. -/
lemma Tracked.Sound.call_refused {tracked : Tracked} (h : tracked.Sound) {args : List Leaf}
    {id : Identifier} (hid : .identifier id ∈ args) (hwritten : id.name ∉ tracked.written)
    (callee : Identifier) :
    ∃ e later n, tracked.session.perform (Emit.statement (.call callee args)) = (.error e, later) ∧
      later.writer.sink.text =
        tracked.session.writer.sink.text ++ String.join (List.replicate n Writer.indentUnit) := by
  obtain ⟨⟨⟨target, scope⟩, writer⟩, written⟩ := tracked
  obtain rfl : target = .c := h.target
  match hline : Target.cLine scope (.call callee args) with
  | .error e => exact ⟨e, _, 0, Session.perform_statement_of_error hline, by simp⟩
  | .ok (line, later) =>
    have hfull := (h.declared _ (Target.mem_scope_of_cLine hline hid)).resolve_left hwritten
    obtain ⟨_, _, placeholders, hcall, -, -, hprintf, -⟩ | ⟨_, _, hdeclaration, -⟩ |
      ⟨_, _, _, hsum, -⟩ := Target.cLine_cases hline
    · cases hcall
      have hlong := Target.utf8ByteSize_declarationLine_le hid (Target.formatString placeholders)
      rw [← hprintf] at hlong
      have hrefused := (Sink.Grows.refl _).not_accepts hlong hfull
      have hne : line ≠ "" := by
        rintro rfl
        simp [Target.utf8ByteSize_declarationLine] at hlong
      obtain ⟨later', n, hwrite, htext⟩ :=
        Session.perform_writeLine_of_not_accepts ⟨⟨.c, later⟩, writer⟩ hne hrefused
      exact ⟨_, later', n, (Session.perform_statement_of_ok hline).trans hwrite, htext⟩
    · cases hdeclaration
    · cases hsum

/-- **Declarations after an error.**  A C statement that fails leaves the variables as they were,
unless it declares one: then its line was refused and the variable counts as declared.  Whatever is
asked for after that on the same sink, a call that names a variable whose declaration has not been
written completely, since the last prologue or before the error, fails and leaves nothing of its
line in the sink. -/
theorem scope_of_failed_statement {scope : Scope} {writer : Writer} {s : Statement} {e : EmitError}
    {later : Session}
    (h : Session.perform ⟨⟨.c, scope⟩, writer⟩ (Emit.statement s) = (.error e, later)) :
    (match s with
      | .declaration type target =>
        e = .refusedWrite ∧
          later.generator.scope = (target.name, Target.cType type) :: scope
      | _ => later.generator.scope = scope) ∧
    ∀ (requests : List Session.Request) (callee : Identifier) (args : List Leaf) (id : Identifier),
      .identifier id ∈ args →
      id.name ∉ (Tracked.run ⟨later, scope.map Prod.fst⟩ requests).written →
      ∃ e' last n,
        (Tracked.run ⟨later, scope.map Prod.fst⟩ requests).session.perform
            (Emit.statement (.call callee args)) = (.error e', last) ∧
        last.writer.sink.text =
          (Tracked.run ⟨later, scope.map Prod.fst⟩ requests).session.writer.sink.text ++
            String.join (List.replicate n Writer.indentUnit) := by
  refine ⟨?_, fun requests callee args id hid hwritten => ?_⟩
  · have hkept (hs : ∀ type target, s ≠ .declaration type target) :
        later.generator.scope = scope := by
      obtain ⟨hgenerator, -⟩ := Session.perform_of_not_declaration hs scope writer
      rw [h] at hgenerator
      exact congrArg Generator.scope hgenerator
    match s with
    | .declaration type target =>
      obtain ⟨_, -, hperform | ⟨hperform, -⟩⟩ :=
        Session.perform_declaration scope writer type target
      · cases hperform.symm.trans h
      · cases hperform.symm.trans h
        exact ⟨rfl, rfl⟩
    | .call callee args => exact hkept (by simp)
    | .extended form args position => exact hkept (by simp)
  · have hsound := (Tracked.sound_of_scope scope writer).after (.statement s)
    rw [Tracked.after, Session.Request.emission, h, Session.Request.recorded_error] at hsound
    exact (hsound.run requests).call_refused hid hwritten callee

/-- A sink with room for the declaration up to the end of its line, and not for the end: the
variable counts as declared, and a call that prints it is refused. -/
theorem scope_of_failed_statement_before_newline :
    ∃ later, Session.perform ⟨.fresh .c, .onto (.empty (some 10))⟩
        (Emit.statement (.declaration .int ⟨"x", .start⟩)) = (.error .refusedWrite, later) ∧
      later.generator.scope = [("x", .int)] ∧ later.writer.sink.text = "int x = 0;" ∧
      ∃ e last n, (Tracked.run ⟨later, []⟩ [.indent]).session.perform
          (Emit.statement (.call ⟨"UwU", .start⟩ [.identifier ⟨"x", .start⟩])) = (.error e, last) ∧
        last.writer.sink.text = "int x = 0;" ++ String.join (List.replicate n "    ") := by
  have h : Session.perform ⟨.fresh .c, .onto (.empty (some 10))⟩
      (Emit.statement (.declaration .int ⟨"x", .start⟩)) =
        (.error .refusedWrite, ⟨⟨.c, [("x", .int)]⟩, ⟨⟨some 10, "int x = 0;"⟩, 0, 0⟩⟩) := by
    decide +kernel
  refine ⟨_, h, rfl, rfl, ?_⟩
  exact (scope_of_failed_statement h).2 [.indent] _ _ _ List.mem_cons_self (by decide)

/-- **A refused declaration counts**: the sink takes nothing of its line, and the variable is
declared. -/
theorem declared_after_refusal :
    ∃ later, Session.perform ⟨.fresh .c, .onto (.empty (some 0))⟩
        (Emit.statement (.declaration .int ⟨"x", .start⟩)) = (.error .refusedWrite, later) ∧
      (Generator.fresh .c).scope.lookup "x" = none ∧
      later.generator.scope.lookup "x" = some .int ∧ later.writer.sink.text = "" := by
  refine ⟨⟨⟨.c, [("x", .int)]⟩, .onto (.empty (some 0))⟩, ?_⟩
  decide +kernel

end Kaomoji
