import JspEndpoint.CommandLine.Run
import JspEndpoint.Proofs.FileWrites

/-!
What a command line leaves behind. A run that fails prints nothing and keeps every file. A run that
succeeds changes no file but the one a conversion is told to write. That file then holds what the
same command line prints when its output switch is taken away.
-/

namespace JspEndpoint.CommandLine

open JspEndpoint.Endpoint

/-- The file that a request asks to be written. -/
def Task.output? : Task → Option Text
  | .convert r => r.output
  | .inspect _ _ | .listFormats => none

/-- The same task with its result printed. -/
def Task.printed : Task → Task
  | .convert r => .convert { r with output := none }
  | .inspect path format => .inspect path format
  | .listFormats => .listFormats

def Request.printed (r : Request) : Request := { r with task := r.task.printed }

@[simp]
theorem Request.layers_printed (r : Request) : r.printed.layers = r.layers := by
  obtain ⟨config, task⟩ := r
  cases task <;> rfl

/-- A command line without its output switch. What an argument is depends on the command that stands
before it. -/
def withoutOutput (command : Option Command) : List Text → List Text
  | [] => []
  | t :: rest =>
    match Word.ofText (Switch.known command) t with
    | .plain name => t :: withoutOutput (command.or (Command.ofName? name)) rest
    | .divider => t :: rest
    | .flag _ | .unknown => t :: withoutOutput command rest
    | .valued s _ =>
      if s = .output then withoutOutput command rest else t :: withoutOutput command rest
    | .pending s =>
      match rest with
      | [] => [t]
      | value :: rest =>
        if s = .output then withoutOutput command rest
        else t :: value :: withoutOutput command rest

namespace Line

variable {l l' : Line} {s : Switch} {t value : Text}

/-- The line read so far without its output switch. -/
def printed (l : Line) : Line := { l with values := l.values.filter (·.1 ≠ .output) }

theorem value?_printed (ne : s ≠ .output) : l.printed.value? s = l.value? s :=
  lookup_filter_ne ne l.values

theorem value?_printed_output : l.printed.value? .output = none := by
  simp only [value?, printed, List.lookup_eq_none_iff, List.mem_filter, decide_eq_true_eq]
  rintro entry ⟨-, ne⟩
  simpa using ne.symm

theorem addValue_printed (ne : s ≠ .output) (h : l.addValue s value = .ok l') :
    l.printed.addValue s value = .ok l'.printed ∧ l'.command = l.command := by
  unfold addValue at h ⊢
  rw [value?_printed ne]
  split at h
  · cases h
  · next free =>
    obtain rfl := Except.ok.inj h
    simp [free, printed, ne]

theorem addValue_output (h : l.addValue .output value = .ok l') :
    l'.printed = l.printed ∧ l'.command = l.command := by
  unfold addValue at h
  split at h
  · cases h
  · obtain rfl := Except.ok.inj h
    simp [printed]

theorem addFlag_printed (h : l.addFlag s = .ok l') :
    l.printed.addFlag s = .ok l'.printed ∧ l'.command = l.command := by
  unfold addFlag at h ⊢
  split at h
  · cases h
  · cases h
  · split at h
    · cases h
    · next free =>
      obtain rfl := Except.ok.inj h
      simp [printed, free]

theorem addPlain_printed (h : l.addPlain t = .ok l') :
    l.printed.addPlain t = .ok l'.printed ∧ l'.command = l.command.or (Command.ofName? t) := by
  unfold addPlain at h ⊢
  rw [value?_printed (by decide), show l.printed.command = l.command from rfl]
  cases command : l.command with
  | none =>
    rw [command] at h
    simp only at h ⊢
    split at h
    · next named =>
      obtain rfl := Except.ok.inj h
      simp [named, printed]
    · cases h
  | some c =>
    rw [command] at h
    simp only at h ⊢
    split at h
    · next room =>
      obtain rfl := Except.ok.inj h
      simp [room, printed, command]
    · cases h

theorem foldlM_addPlain_printed {rest : List Text} (h : rest.foldlM addPlain l = .ok l') :
    rest.foldlM addPlain l.printed = .ok l'.printed := by
  induction rest generalizing l with
  | nil =>
    obtain rfl := Except.ok.inj h
    rfl
  | cons t rest ih =>
    rw [List.foldlM_cons] at h ⊢
    obtain ⟨middle, added, left⟩ := bind_eq_ok h
    rw [(addPlain_printed added).1]
    exact ih left

theorem addRest_printed {rest : List Text} (h : l.addRest rest = .ok l') :
    l.printed.addRest rest = .ok l'.printed := by
  unfold addRest at h ⊢
  rw [show l.printed.command = l.command from rfl]
  split at h
  · cases h
  · exact foldlM_addPlain_printed h

section Read

variable {rest : List Text}

theorem read_plain {name : Text} (word : Word.ofText (Switch.known l.command) t = .plain name) :
    l.read (t :: rest) = l.addPlain name >>= (·.read rest) := by
  rw [read, word]

theorem read_divider (word : Word.ofText (Switch.known l.command) t = .divider) :
    l.read (t :: rest) = l.addRest rest := by
  rw [read, word]

theorem read_flag (word : Word.ofText (Switch.known l.command) t = .flag s) :
    l.read (t :: rest) = l.addFlag s >>= (·.read rest) := by
  rw [read, word]

theorem read_valued (word : Word.ofText (Switch.known l.command) t = .valued s value) :
    l.read (t :: rest) = l.addValue s value >>= (·.read rest) := by
  rw [read, word]

theorem read_pending (word : Word.ofText (Switch.known l.command) t = .pending s) :
    l.read (t :: value :: rest) =
      if startsSwitch value then .error .usage else l.addValue s value >>= (·.read rest) := by
  rw [read, word]

end Read

theorem read_withoutOutput {args : List Text} {line : Line} (h : l.read args = .ok line) :
    l.printed.read (withoutOutput l.command args) = .ok line.printed := by
  -- the induction follows the arguments; both readings have come to the same command, so an
  -- argument is the same kind of word for both
  generalize known : l.command = command
  fun_induction withoutOutput command args generalizing l with
  | case1 command =>
    obtain rfl := Except.ok.inj h
    rfl
  | case2 command t rest name word ih =>
    subst known
    rw [read_plain word] at h
    obtain ⟨middle, added, left⟩ := bind_eq_ok h
    obtain ⟨added', next⟩ := addPlain_printed added
    rw [read_plain (l := l.printed) word, added']
    exact ih left next
  | case3 command t rest word =>
    subst known
    rw [read_divider word] at h
    rw [read_divider (l := l.printed) word]
    exact addRest_printed h
  | case4 command t rest s word ih =>
    subst known
    rw [read_flag word] at h
    obtain ⟨middle, added, left⟩ := bind_eq_ok h
    obtain ⟨added', next⟩ := addFlag_printed added
    rw [read_flag (l := l.printed) word, added']
    exact ih left next
  | case5 command t rest word ih =>
    rw [read, known, word] at h
    cases h
  | case6 command t rest value word ih =>
    subst known
    rw [read_valued word] at h
    obtain ⟨middle, added, left⟩ := bind_eq_ok h
    obtain ⟨same, next⟩ := addValue_output added
    rw [← same]
    exact ih left next
  | case7 command t rest s value word ne ih =>
    subst known
    rw [read_valued word] at h
    obtain ⟨middle, added, left⟩ := bind_eq_ok h
    obtain ⟨added', next⟩ := addValue_printed ne added
    rw [read_valued (l := l.printed) word, added']
    exact ih left next
  | case8 command t s word =>
    rw [read, known, word] at h
    cases h
  | case9 command t value rest word ih =>
    subst known
    rw [read_pending word] at h
    split at h
    · cases h
    · obtain ⟨middle, added, left⟩ := bind_eq_ok h
      obtain ⟨same, next⟩ := addValue_output added
      rw [← same]
      exact ih left next
  | case10 command t s word value rest ne ih =>
    subst known
    rw [read_pending word] at h
    rw [read_pending (l := l.printed) word]
    split at h
    · cases h
    · next no_switch =>
      obtain ⟨middle, added, left⟩ := bind_eq_ok h
      obtain ⟨added', next⟩ := addValue_printed ne added
      rw [if_neg no_switch, added']
      exact ih left next

theorem task?_printed : l.printed.task? = l.task?.map Task.printed := by
  have plain : l.printed.plain = l.plain := rfl
  have flags : l.printed.flags = l.flags := rfl
  unfold task?
  rw [show l.printed.command = l.command from rfl, plain, flags, value?_printed_output,
    value?_printed (by decide), value?_printed (by decide), value?_printed (by decide),
    value?_printed (by decide)]
  split <;> rfl

theorem config?_printed : l.printed.config? = l.config? := by
  rw [config?, config?, value?_printed (by decide)]
  rfl

end Line

theorem Request.ofArguments_withoutOutput {args : List Text} {request : Request}
    (h : Request.ofArguments args = .ok request) :
    Request.ofArguments (withoutOutput none args) = .ok request.printed := by
  obtain ⟨line, read, made⟩ := bind_eq_ok h
  have read' : Line.empty.read (withoutOutput none args) = .ok line.printed :=
    Line.read_withoutOutput read
  simp only [ofArguments, read', bind, Except.bind, Line.task?_printed, Line.config?_printed]
  cases task : line.task? with
  | none => simp [task] at made
  | some task' =>
    obtain rfl : ⟨line.config?, task'⟩ = request := by simpa [task] using made
    rfl

theorem prepareRequest_cases (tree : FileTree) (r : Request) :
    (∃ message, prepareRequest tree r = .finish 1 [] message) ∨
    (∃ text, prepareRequest tree r = .succeed text ∧ r.task.output? = none) ∨
    ∃ settings convert path page, r.task = .convert convert ∧ convert.output = some path ∧
      Settings.load tree r.layers = .ok settings ∧ convertPage tree settings convert = .ok page ∧
      prepareRequest tree r = .save path page.render ∧
      prepareRequest tree r.printed = .succeed (page.render ++ ['\n']) := by
  obtain ⟨config, task⟩ := r
  cases loaded : Settings.load tree (Request.layers ⟨config, task⟩) with
  | error e => exact .inl ⟨_, by rw [prepareRequest, loaded]; rfl⟩
  | ok settings =>
    have loaded' : Settings.load tree (Request.printed ⟨config, task⟩).layers = .ok settings := by
      rw [Request.layers_printed, loaded]
    rw [prepareRequest, loaded, prepareRequest, loaded']
    cases task with
    | convert convert =>
      -- where the result goes is looked at only once there is one
      have same : convertPage tree settings { convert with output := none } =
          convertPage tree settings convert := rfl
      simp only [Request.printed, Task.printed, prepareTask, prepareConvert, same]
      cases converted : convertPage tree settings convert with
      | error e => exact .inl ⟨_, rfl⟩
      | ok page =>
        cases asked : convert.output with
        | none => exact .inr (.inl ⟨_, rfl, asked⟩)
        | some path =>
          exact .inr (.inr ⟨settings, convert, path, page, rfl, asked, rfl, converted, rfl, rfl⟩)
    | inspect path format =>
      simp only [prepareTask, prepareInspect]
      split
      · exact .inl ⟨_, rfl⟩
      · split
        · exact .inl ⟨_, rfl⟩
        · exact .inr (.inl ⟨_, rfl, rfl⟩)
    | listFormats => exact .inr (.inl ⟨_, rfl, rfl⟩)

theorem run_of_arguments {tree : FileTree} {args : List Text} {request : Request}
    (parsed : Request.ofArguments args = .ok request) :
    run tree args = (prepareRequest tree request).perform tree := by
  rw [run, prepare, parsed]

/-- A run that fails prints nothing and keeps every file. One that succeeds changes no entry but that
of the file it was asked to write. The file then holds the class of the page as it was before the
run, and without the output switch the same class is printed with a line end. -/
theorem run_leaves_no_trace {args : List Text} {request : Request} (tree : FileTree)
    (parsed : Request.ofArguments args = .ok request) :
    ((run tree args).exit ≠ 0 → (run tree args).stdout = [] ∧ (run tree args).files = tree) ∧
    ((run tree args).exit = 0 → request.task.output? = none → (run tree args).files = tree) ∧
    ∀ path, (run tree args).exit = 0 → request.task.output? = some path →
      ∃ settings convert page place, request.task = .convert convert ∧
        Settings.load tree request.layers = .ok settings ∧
        convertPage tree settings convert = .ok page ∧
        tree.target path = .ok place ∧ tree.SameExcept place (run tree args).files ∧
        (run tree args).files.read path = .ok page.render ∧ (run tree args).stdout = [] ∧
        Request.ofArguments (withoutOutput none args) = .ok request.printed ∧
        run tree (withoutOutput none args) = ⟨0, page.render ++ ['\n'], [], tree⟩ := by
  have parsed' := Request.ofArguments_withoutOutput parsed
  rw [run_of_arguments parsed, run_of_arguments parsed']
  rcases prepareRequest_cases tree request with ⟨message, fails⟩ | ⟨text, prints, no_output⟩ |
    ⟨settings, convert, file, page, task, output, loaded, converted, saves, prints⟩
  · rw [fails]
    simp [Action.perform]
  · rw [prints]
    simp [Action.perform, Action.succeed, no_output]
  · have asked : request.task.output? = some file := by rw [task]; exact output
    rw [saves, prints]
    cases written : tree.write file page.render with
    | error e => simp [Action.perform, written]
    | ok after =>
      obtain ⟨place, target, same, -, reads⟩ := FileTree.write_spec written
      simp only [Action.perform, written, asked]
      refine ⟨fun failed => absurd rfl failed, fun _ none_asked => by simp at none_asked, ?_⟩
      intro path _ path_eq
      obtain rfl := Option.some.inj path_eq
      exact ⟨settings, convert, page, place, task, loaded, converted, target, same, reads, trivial,
        parsed', rfl⟩

theorem run_leaves_no_trace_in_place :
    let tree : FileTree := ⟨[(["a.jsp"], .file (.text "x")), (["b.jsp"], .file (.text "y"))]⟩
    let result := run tree ["convert", "a.jsp", "-oa.jsp"]
    Request.ofArguments ["convert", "a.jsp", "-oa.jsp"] =
      .ok ⟨none, .convert ⟨"a.jsp", none, none, none, false, false, some "a.jsp"⟩⟩ ∧
    result.exit = 0 ∧ ∃ page : EndpointClass, ∃ place, tree.SameExcept place result.files ∧
      result.files.read "a.jsp" = .ok page.render ∧
      run tree ["convert", "a.jsp"] = ⟨0, page.render ++ ['\n'], [], tree⟩ := by
  intro tree result
  have parsed : Request.ofArguments ["convert", "a.jsp", "-oa.jsp"] =
      .ok ⟨none, .convert ⟨"a.jsp", none, none, none, false, false, some "a.jsp"⟩⟩ := by rfl
  have succeeds : result.exit = 0 := by decide +kernel
  obtain ⟨-, -, saves⟩ := run_leaves_no_trace tree parsed
  obtain ⟨-, -, page, place, -, -, -, -, same, reads, -, -, prints⟩ := saves "a.jsp" succeeds rfl
  exact ⟨parsed, succeeds, page, place, same, reads, prints⟩

end JspEndpoint.CommandLine
