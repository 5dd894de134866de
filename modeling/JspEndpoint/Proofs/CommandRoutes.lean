import JspEndpoint.Proofs.AssemblyChannels
import JspEndpoint.Proofs.ClassNames
import JspEndpoint.Proofs.CommandTraces

/-!
Two commands that print the class of a page. `convert` takes the route from the last name of the
path, `inspect` from what stands after the last slash of either kind. With no settings file both come
to the class of the template under their route. So they agree exactly when the last name of the path
holds no backslash, or both fail.
-/

namespace JspEndpoint.Endpoint

open JspEndpoint.Template

variable (className route : Text)

/-- The class under another name and route. -/
def EndpointClass.rename (c : EndpointClass) : EndpointClass :=
  { c with className := className, routePath := route }

def Assembly.rename (a : Assembly) : Assembly := { a with page := a.page.rename className route }

theorem Assembly.add_rename (a : Assembly) (e : Event) :
    (a.rename className route).add e = (a.add e).rename className route := by
  rw [add_eq, add_eq]
  rfl

theorem Assembly.addAll_rename (a : Assembly) (events : List Event) :
    (a.rename className route).addAll events = (a.addAll events).rename className route := by
  induction events generalizing a with
  | nil => rfl
  | cons e rest ih =>
    change ((a.rename className route).add e).addAll rest = _
    rw [add_rename, ih]
    rfl

namespace EndpointClass

def renderComponent : Option Text → Text
  | some name => "(name=\"" ++ name ++ "\")"
  | none => []

/-- All that is written before the route. -/
def upToRoute (c : EndpointClass) : Text :=
  header ++ c.sourcePath ++ "\n */\n" ++ renderPackage c.package ++
    renderParts (standardImports.map .importName) ++ renderParts (c.imports.map .importName) ++
    renderParts (c.comments.map .comment) ++ "@Stateless" ++
    renderComponent c.componentName ++ "\n@Path(\""

/-- What is written between the route and the name of the class. -/
def betweenRouteAndName : Text := "\")\n" ++ "public class "

/-- All that is written after the name of the class. -/
def afterName (c : EndpointClass) : Text :=
  " \x7b\n" ++ methodStart ++ renderParts (c.scopeSetup.map .bundle) ++ renderParts c.codes ++
    methodEnd ++ renderParts (c.declarations.map .declaration) ++ "\x7d" ++
    c.sourceText.elim [] renderEcho

theorem renderAnnotations_eq (c : EndpointClass) :
    c.renderAnnotations =
      "@Stateless" ++ renderComponent c.componentName ++ "\n@Path(\"" ++ c.routePath ++
        "\")\n" := by
  unfold renderAnnotations renderComponent
  cases c.componentName <;> rfl

theorem render_eq_append (c : EndpointClass) :
    c.render = c.renderClass ++ c.sourceText.elim [] renderEcho := by
  unfold render
  cases c.sourceText with
  | none => exact (List.append_nil _).symm
  | some source => rfl

theorem render_eq (c : EndpointClass) :
    c.render =
      c.upToRoute ++ (c.routePath ++ (betweenRouteAndName ++ c.className)) ++ c.afterName := by
  unfold upToRoute betweenRouteAndName afterName
  rw [render_eq_append]
  unfold renderClass
  rw [renderAnnotations_eq]
  unfold renderBody
  simp only [List.append_assoc]

end EndpointClass

end JspEndpoint.Endpoint

namespace JspEndpoint

open JspEndpoint.Template JspEndpoint.Endpoint

/-- The class of a template under a route, with nothing set. -/
def classUnder (path source route : Text) : Except ConversionError EndpointClass := do
  let page ← Page.new? path [] route Options.standard
  page.convert (some source)

theorem exists_rename_of_classUnder (path source : Text) : ∃ base : EndpointClass, ∀ route c,
    classUnder path source route = .ok c →
      c = base.rename (classNameOf route) (normalizeRoute (normalizeRoute route)) := by
  let empty := EndpointClass.new [] [] [] path
  let page := ((Assembly.start empty).addAll (recognize source)).page
  refine ⟨{ page with sourceText := some source }, fun route c h => ?_⟩
  obtain ⟨p, made, converted⟩ := bind_eq_ok h
  simp only [Page.new?] at made
  split at made
  · cases made
  · obtain rfl := Except.ok.inj made
    rw [Page.eq_of_convert converted]
    have renamed : Page.assemble ⟨path, [], normalizeRoute route, classNameOf route, .standard⟩
        (recognize source) =
          page.rename (classNameOf route) (normalizeRoute (normalizeRoute route)) :=
      congrArg Assembly.page (Assembly.addAll_rename _ _ (Assembly.start empty) _)
    rw [Page.applyOptions, renamed]
    rfl

theorem mem_normalizeRoute {m : Char} (ne : m ≠ '/') {route : Text} :
    m ∈ normalizeRoute route ↔ m ∈ route := by
  unfold normalizeRoute
  split
  · rfl
  · simp [ne]

theorem render_ne_of_backslash {path source route other : Text} {c d : EndpointClass}
    (made : classUnder path source route = .ok c) (made' : classUnder path source other = .ok d)
    (backslash : '\\' ∈ route) (free : '\\' ∉ other) : c.render ≠ d.render := by
  obtain ⟨base, renamed⟩ := exists_rename_of_classUnder path source
  obtain rfl := renamed route c made
  obtain rfl := renamed other d made'
  rw [EndpointClass.render_eq, EndpointClass.render_eq]
  intro same
  -- the two texts are the same up to the route and from the name on, so they agree between
  have middle : normalizeRoute (normalizeRoute route) ++
      (EndpointClass.betweenRouteAndName ++ classNameOf route) =
      normalizeRoute (normalizeRoute other) ++
        (EndpointClass.betweenRouteAndName ++ classNameOf other) :=
    List.append_cancel_left (List.append_cancel_right same)
  have shown : '\\' ∈ normalizeRoute (normalizeRoute other) ++
      (EndpointClass.betweenRouteAndName ++ classNameOf other) := by
    rw [← middle]
    apply List.mem_append_left
    rwa [mem_normalizeRoute (by decide), mem_normalizeRoute (by decide)]
  rcases List.mem_append.1 shown with in_route | later
  · rw [mem_normalizeRoute (by decide), mem_normalizeRoute (by decide)] at in_route
    exact free in_route
  · rcases List.mem_append.1 later with between | in_name
    · exact absurd between (by decide)
    · exact free (mem_of_mem_classNameOf Text.caseless_backslash in_name)

namespace Report

theorem backslash_notMem_routeOfPath (path : Text) : '\\' ∉ routeOfPath path := fun found => by
  simpa using Text.free_afterLast '\\' found

theorem routeOfPath_of_notMem {path : Text} (h : '\\' ∉ Text.afterLast (· = '/') path) :
    routeOfPath path = Text.afterLast (· = '/') path := by
  have marks {c : Char} (slash : decide (c = '/') = false) (backslash : c ≠ '\\') :
      (decide (c = '/') || decide (c = '\\')) = false := by simp [slash, backslash]
  rcases Text.lastMark_cases (· = '/') path with free | ⟨front, m, rest, rfl, marked, free⟩
  · rw [Text.afterLast_of_free free] at h ⊢
    exact Text.afterLast_of_free fun c hc => marks (free c hc) fun same => h (same ▸ hc)
  · rw [Text.afterLast_append front marked free] at h ⊢
    exact Text.afterLast_append front (by simp [marked]) fun c hc =>
      marks (free c hc) fun same => h (same ▸ hc)

end Report

namespace CommandLine

open JspEndpoint.Report

theorem Word.ofText_plain {known : List Switch} {t : Text} (h : t.head? ≠ some '-') :
    Word.ofText known t = .plain t := by
  unfold ofText
  split <;> simp_all

section

variable {tree : FileTree} {path source : Text}

theorem load_of_absent (absent : ¬tree.isFile localSettings)
    (absent_too : ¬tree.isFile (localSettings ++ Settings.extension)) :
    Settings.load tree [.optionalFile localSettings] = .ok .standard := by
  have extended : Settings.withExtension? localSettings =
      some (localSettings ++ Settings.extension) := by rfl
  have nowhere : Settings.locate? tree localSettings = none := by
    rw [Settings.locate?, if_neg absent, extended, Option.filter_some, if_neg absent_too]
  have entries : Settings.Layer.entries tree (.optionalFile localSettings) = .ok [] := by
    rw [Settings.Layer.entries, nowhere]
  rw [Settings.load]
  simp only [List.foldlM_cons, List.foldlM_nil, entries]
  rfl

/-- A line after its command. -/
def Line.after (c : Command) : Line := ⟨some c, none, [], [], []⟩

theorem Line.read_path {c : Command} (one : c.arity = 1) (plain : path.head? ≠ some '-')
    (rest : List Text) :
    (after c).read (path :: rest) = Line.read ⟨some c, none, [], [], [path]⟩ rest := by
  have word : Word.ofText (Switch.known (after c).command) path = .plain path :=
    Word.ofText_plain plain
  have room : (after c).addPlain path = .ok ⟨some c, none, [], [], [path]⟩ := by
    simp [addPlain, after, one]
  rw [read_plain word, room]
  rfl

theorem ofArguments_convert (plain : path.head? ≠ some '-') :
    Request.ofArguments ["convert", path] =
      .ok ⟨none, .convert ⟨path, none, none, none, false, false, none⟩⟩ := by
  have command : Line.empty.read ["convert", path] = (Line.after .convert).read [path] := by rfl
  rw [Request.ofArguments, command, Line.read_path rfl plain]
  rfl

theorem ofArguments_inspect (plain : path.head? ≠ some '-') :
    Request.ofArguments ["inspect", path, "--format", "java"] =
      .ok ⟨none, .inspect path "java"⟩ := by
  have command : Line.empty.read ["inspect", path, "--format", "java"] =
      (Line.after .inspect).read [path, "--format", "java"] := by rfl
  rw [Request.ofArguments, command, Line.read_path rfl plain]
  rfl

theorem defaultRoute_of_read (readable : tree.read path = .ok source) :
    defaultRoute path = Text.afterLast (· = '/') path := by
  obtain ⟨before, name, split, named⟩ := FileTree.fileName?_of_read readable
  have last : (FileTree.steps path).getLast? = some name := by simp [split]
  rw [FileTree.steps, Text.getLast?_splitOn] at last
  rw [defaultRoute, named, Option.getD_some, Option.some.inj last]

theorem convertPage_of_read (readable : tree.read path = .ok source) :
    convertPage tree .standard ⟨path, none, none, none, false, false, none⟩ =
      classUnder path source (Text.afterLast (· = '/') path) := by
  obtain ⟨entry, found, -⟩ := bind_eq_ok readable
  have converted (p : Page) (same : p.sourcePath = path) :
      p.convertFile tree = p.convert (some source) := by
    rw [Page.convertFile, same, readable]
    rfl
  rw [← defaultRoute_of_read readable]
  simp only [convertPage, classUnder, Page.openFile, found, Page.new?, Option.getD_none]
  split
  · rfl
  · let page : Page := ⟨path, [], normalizeRoute (defaultRoute path),
      classNameOf (defaultRoute path), .standard⟩
    change (page.convertFile tree >>= fun c => pure (nameClass .standard none c)) =
      page.convert (some source)
    rw [converted page rfl]
    exact bind_pure _

theorem convertForReport_eq :
    convertForReport source path =
      (classUnder path source (routeOfPath path)).mapError .conversion := by
  unfold convertForReport classUnder
  cases Page.new? path [] (routeOfPath path) Options.standard with
  | error e => rfl
  | ok page =>
    simp only [bind, Except.bind]
    cases page.convert (some source) <;> rfl

section Unset

variable (absent : ¬tree.isFile localSettings)
  (absent_too : ¬tree.isFile (localSettings ++ Settings.extension))
  (plain : path.head? ≠ some '-') (readable : tree.read path = .ok source)

include absent absent_too plain readable

theorem run_convert :
    run tree ["convert", path] =
      match classUnder path source (Text.afterLast (· = '/') path) with
      | .ok c => ⟨0, c.render ++ ['\n'], [], tree⟩
      | .error e => ⟨1, [], Action.failure "Conversion error" e.message, tree⟩ := by
  let request : Request := ⟨none, .convert ⟨path, none, none, none, false, false, none⟩⟩
  have loaded : Settings.load tree request.layers = .ok .standard :=
    load_of_absent absent absent_too
  rw [run_of_arguments (ofArguments_convert plain), prepareRequest, loaded]
  change (prepareConvert tree .standard _).perform tree = _
  rw [prepareConvert, convertPage_of_read readable]
  cases classUnder path source (Text.afterLast (· = '/') path) <;> rfl

theorem run_inspect :
    run tree ["inspect", path, "--format", "java"] =
      match classUnder path source (routeOfPath path) with
      | .ok c => ⟨0, c.render, [], tree⟩
      | .error e => ⟨1, [], Action.failure "Execution error" e.message, tree⟩ := by
  let request : Request := ⟨none, .inspect path "java"⟩
  have loaded : Settings.load tree request.layers = .ok .standard :=
    load_of_absent absent absent_too
  have format : Format.ofName "java" = .ok ⟨.java, .java⟩ := by rfl
  rw [run_of_arguments (ofArguments_inspect plain), prepareRequest, loaded]
  change (prepareInspect tree path "java").perform tree = _
  rw [prepareInspect, format]
  simp only [reportFile, readable, report, convertForReport_eq]
  cases classUnder path source (routeOfPath path) <;> rfl

end Unset

/-- Both commands fail, or both print the same class, `convert` with a line end after it. -/
def Agree (converted inspected : Result) : Prop :=
  converted.exit = 1 ∧ inspected.exit = 1 ∨
    converted.exit = 0 ∧ inspected.exit = 0 ∧ converted.stdout = inspected.stdout ++ ['\n']

instance (converted inspected : Result) : Decidable (Agree converted inspected) :=
  inferInstanceAs (Decidable (_ ∨ _))

/-- With no settings file, `convert` and `inspect` agree on a path to a readable page exactly when
its last name holds no backslash or both fail. -/
theorem convert_agrees_with_inspect (absent : ¬tree.isFile localSettings)
    (absent_too : ¬tree.isFile (localSettings ++ Settings.extension))
    (plain : path.head? ≠ some '-') (readable : tree.read path = .ok source) :
    Agree (run tree ["convert", path]) (run tree ["inspect", path, "--format", "java"]) ↔
      '\\' ∉ Text.afterLast (· = '/') path ∨
        (run tree ["convert", path]).exit = 1 ∧
          (run tree ["inspect", path, "--format", "java"]).exit = 1 := by
  rw [run_convert absent absent_too plain readable, run_inspect absent absent_too plain readable]
  by_cases backslash : '\\' ∈ Text.afterLast (· = '/') path
  · cases converted : classUnder path source (Text.afterLast (· = '/') path) with
    | error e => cases classUnder path source (routeOfPath path) <;> simp [Agree, backslash]
    | ok c =>
      cases inspected : classUnder path source (routeOfPath path) with
      | error e => simp [Agree, backslash]
      | ok d =>
        have differ :=
          render_ne_of_backslash converted inspected backslash (backslash_notMem_routeOfPath path)
        simp [Agree, backslash, differ]
  · rw [routeOfPath_of_notMem backslash]
    cases classUnder path source (Text.afterLast (· = '/') path) <;> simp [Agree, backslash]

theorem convert_agrees_with_inspect_below :
    let tree : FileTree := ⟨[(["a\\b", "user_list.jsp"], .file (.text "x"))]⟩
    let path : Text := "./a\\b//user_list.jsp"
    ¬tree.isFile localSettings ∧ ¬tree.isFile (localSettings ++ Settings.extension) ∧
    path.head? ≠ some '-' ∧ tree.read path = .ok "x" ∧
    Agree (run tree ["convert", path]) (run tree ["inspect", path, "--format", "java"]) := by
  intro tree path
  have absent : ¬tree.isFile localSettings := by decide +kernel
  have absent_too : ¬tree.isFile (localSettings ++ Settings.extension) := by decide +kernel
  have plain : path.head? ≠ some '-' := by decide +kernel
  have readable : tree.read path = .ok "x" := by decide +kernel
  have no_backslash : '\\' ∉ Text.afterLast (· = '/') path := by decide +kernel
  exact ⟨absent, absent_too, plain, readable,
    (convert_agrees_with_inspect absent absent_too plain readable).2 (.inl no_backslash)⟩

/-- A file name with a backslash, and a settings file with its extension twice. -/
theorem convert_parts_from_inspect :
    let backslash : FileTree := ⟨[(["a\\b.jsp"], .file (.text "x"))]⟩
    let twice : FileTree :=
      ⟨[(["jsp2rest.toml.toml"], .file (.text "convert.package = 'p'")),
        (["a.jsp"], .file (.text "x"))]⟩
    (¬backslash.isFile localSettings ∧ backslash.read "a\\b.jsp" = .ok "x" ∧
      ¬Agree (run backslash ["convert", "a\\b.jsp"])
        (run backslash ["inspect", "a\\b.jsp", "--format", "java"])) ∧
    ¬twice.isFile localSettings ∧ twice.read "a.jsp" = .ok "x" ∧
      ¬Agree (run twice ["convert", "a.jsp"])
        (run twice ["inspect", "a.jsp", "--format", "java"]) := by
  decide +kernel

end

end CommandLine

end JspEndpoint
