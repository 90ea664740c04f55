import SitePreview.Proofs.Command.Sessions
import SitePreview.Proofs.FileSet.Lookup
import SitePreview.Proofs.Text.Parts
import SitePreview.Proofs.Tree.Places

/-! Where extraction writes. Whatever the response and the directory for its files are, each file
that is written has a path that neither is absolute nor leads back, and stands in the place that the
path names below the directory; the others are passed over. Only a path of nothing but `.` names no
place below the directory: its file takes the place of the directory itself. -/

namespace SitePreview.Command

open Text CodePoint Session

variable {α β : Type} {path segment : Text} {p q : Progress}

/-- The path starts where its reader is, and no step of it leads back. -/
def IsSafe (path : Text) : Prop :=
  path.startsWith "/" = false ∧ (".." : Text) ∉ path.splitOn '/'

instance (path : Text) : Decidable (IsSafe path) := inferInstanceAs (Decidable (_ ∧ _))

/-- The segment leads one step down. -/
structure IsName (segment : Text) : Prop where
  ne_nil : segment ≠ []
  ne_here : segment ≠ "."
  ne_above : segment ≠ ".."
  no_slash : ofChar '/' ∉ segment

theorem mem_segments_ofText :
    segment ∈ (Path.ofText path).segments ↔
      segment ∈ path.splitOn '/' ∧ segment ≠ [] ∧ segment ≠ "." := by
  simp [Path.ofText, List.mem_filter]

theorem safePath?_of_isSafe (h : IsSafe path) : safePath? path = some (Path.ofText path) := by
  have habove : (".." : Text) ∉ (Path.ofText path).segments :=
    fun hmem => h.2 (mem_segments_ofText.mp hmem).1
  simp [safePath?, Workspace.isAbsolute_ofText, h.1, habove]

theorem safePath?_of_not_isSafe (h : ¬ IsSafe path) : safePath? path = none := by
  simp only [IsSafe, not_and_or, not_not, Bool.not_eq_false] at h
  simp only [safePath?, Workspace.isAbsolute_ofText]
  rcases h with habsolute | habove
  · simp [habsolute]
  · have hmem : (".." : Text) ∈ (Path.ofText path).segments :=
      mem_segments_ofText.mpr ⟨habove, by decide, by decide⟩
    simp [hmem]

theorem IsSafe.isName (h : IsSafe path) : ∀ s ∈ (Path.ofText path).segments, IsName s := by
  intro s hs
  obtain ⟨hmem, hne, hhere⟩ := mem_segments_ofText.mp hs
  exact ⟨hne, hhere, fun heq => h.2 (heq ▸ hmem), not_mem_of_mem_splitOn hmem⟩

/-- The files of the paths that are safe, each with its place below the directory. -/
def entriesBelow (directory : List Text) (files : FileSet) (paths : List Text) :
    List (List Text × Text) :=
  paths.filterMap fun path =>
    (safePath? path).map fun p => (directory ++ p.segments, files.content path)

theorem entriesBelow_cons_of_isSafe (h : IsSafe path) (directory : List Text) (files : FileSet)
    (paths : List Text) :
    entriesBelow directory files (path :: paths) =
      (directory ++ (Path.ofText path).segments, files.content path) ::
        entriesBelow directory files paths := by
  simp [entriesBelow, safePath?_of_isSafe h]

theorem entriesBelow_cons_of_not_isSafe (h : ¬ IsSafe path) (directory : List Text)
    (files : FileSet) (paths : List Text) :
    entriesBelow directory files (path :: paths) = entriesBelow directory files paths := by
  simp [entriesBelow, safePath?_of_not_isSafe h]

/-- The bytes in a place once files are written one after another. -/
def bytesAfter? (root : Node) (written : List (List Text × Text)) (place : List Text) :
    Option (List UInt8) :=
  ((written.reverse.lookup place).map utf8Bytes).or (root.bytes? place)

/-- The entries are written one after another up to some place, and nothing else is. All of them are
written if there was no stop. -/
def Writes (before : Workspace) (entries : List (List Text × Text))
    (r : Except Stop α × Progress) : Prop :=
  ∃ written, written <+: entries ∧ r.2.workspace.directory = before.directory ∧
    (∀ place, r.2.workspace.root.bytes? place = bytesAfter? before.root written place) ∧
    ∀ a, r.1 = .ok a → written = entries

namespace Writes

variable {before after : Workspace} {entries : List (List Text × Text)} {x : Session α}
  {f : α → Session β}

/-- Nothing need be written yet where a command stops. -/
theorem stopped (stop : Stop) (p : Progress) :
    Writes p.workspace entries ((.error stop, p) : Except Stop α × Progress) :=
  ⟨[], List.nil_prefix, rfl, fun _ => rfl, fun _ h => by cases h⟩

theorem bind_leaves (h : Writes before entries (x.outcome p)) (hf : ∀ a, Leaves (f a)) :
    Writes before entries ((x >>= f).outcome p) := by
  obtain ⟨written, hprefix, hdirectory, hbytes, hall⟩ := h
  cases hp : x.outcome p with
  | mk e q =>
    rw [hp] at hdirectory hbytes hall
    cases e with
    | ok a =>
      rw [outcome_bind_ok hp]
      refine ⟨written, hprefix, ?_, fun place => ?_, fun _ _ => hall a rfl⟩
      · rw [hf a, hdirectory]
      · rw [hf a, hbytes]
    | error stop =>
      rw [outcome_bind_error hp]
      exact ⟨written, hprefix, hdirectory, hbytes, fun _ h => by cases h⟩

theorem looks_bind (hx : Looks x)
    (h : ∀ a, x.outcome p = (.ok a, p) → Writes p.workspace entries ((f a).outcome p)) :
    Writes p.workspace entries ((x >>= f).outcome p) := by
  have hxp := hx p
  cases hp : x.outcome p with
  | mk e q =>
    rw [hp] at hxp
    obtain rfl : q = p := hxp
    cases e with
    | ok a =>
      rw [outcome_bind_ok hp]
      exact h a hp
    | error stop =>
      rw [outcome_bind_error hp]
      exact stopped stop q

end Writes

/-- A file is written as a whole or the command stops with nothing changed. -/
theorem outcome_writeFile (path : Path) (content : Text) (p : Progress) :
    (∃ stop, (writeFile path content).outcome p = (.error stop, p)) ∨
      ∃ w, p.workspace.write path content.utf8Bytes = .ok w ∧
        (writeFile path content).outcome p = (.ok (), { p with workspace := w }) := by
  rw [writeFile]
  by_cases hnul : (path.segments.any fun s => s.contains '\x00') = true
  · rw [if_pos hnul]
    exact .inl ⟨_, rfl⟩
  rw [if_neg hnul]
  cases hbytes : content.toUtf8 with
  | error e => exact .inl ⟨_, rfl⟩
  | ok bytes =>
    have heq : bytes = content.utf8Bytes := by
      rw [toUtf8] at hbytes
      split at hbytes
      · cases hbytes
      · exact (Except.ok.inj hbytes).symm
    cases hwrite : p.workspace.write path bytes with
    | error e =>
      refine .inl ⟨.failed (.tree e), ?_⟩
      show (orFail .tree (p.workspace.write path bytes) >>= setWorkspace).outcome p = _
      rw [hwrite]
      rfl
    | ok w =>
      refine .inr ⟨w, heq ▸ hwrite, ?_⟩
      show (orFail .tree (p.workspace.write path bytes) >>= setWorkspace).outcome p = _
      rw [hwrite]
      rfl

theorem bytesAfter?_cons {root after : Node} {target : List Text} {content : Text}
    (h : ∀ place, after.bytes? place =
      if place = target then some content.utf8Bytes else root.bytes? place)
    (written : List (List Text × Text)) (place : List Text) :
    bytesAfter? root ((target, content) :: written) place = bytesAfter? after written place := by
  rw [bytesAfter?, bytesAfter?, List.reverse_cons, List.lookup_append, h, Keyed.lookup_cons]
  cases written.reverse.lookup place with
  | some c => rfl
  | none =>
    split <;> simp

/-- Behind the first entry, the others are written to the workspace that it left. -/
theorem Writes.cons {before after : Workspace} {entries : List (List Text × Text)}
    {r : Except Stop α × Progress} {target : List Text} {content : Text}
    (h : Writes after entries r) (hdirectory : after.directory = before.directory)
    (hbytes : ∀ place, after.root.bytes? place =
      if place = target then some content.utf8Bytes else before.root.bytes? place) :
    Writes before ((target, content) :: entries) r := by
  obtain ⟨written, hprefix, hdirectory', hbytes', hall⟩ := h
  refine ⟨(target, content) :: written, List.cons_prefix_cons.mpr ⟨rfl, hprefix⟩,
    hdirectory'.trans hdirectory, fun place => ?_, fun a ha => by rw [hall a ha]⟩
  rw [bytesAfter?_cons hbytes, hbytes']

section BytesAfter

variable {root : Node} {written : List (List Text × Text)} {place : List Text} {content : Text}

theorem bytesAfter?_of_mem (hmem : (place, content) ∈ written)
    (h : ∀ c, (place, c) ∈ written → c = content) :
    bytesAfter? root written place = some content.utf8Bytes := by
  rw [bytesAfter?]
  cases hfound : written.reverse.lookup place with
  | none =>
    have hne := List.lookup_eq_none_iff.mp hfound _ (List.mem_reverse.mpr hmem)
    simp at hne
  | some c =>
    rw [h c (List.mem_reverse.mp (Keyed.mem_of_lookup_eq_some hfound))]
    rfl

theorem bytesAfter?_of_not_mem (h : ∀ e ∈ written, e.1 ≠ place) :
    bytesAfter? root written place = root.bytes? place := by
  have hnone : written.reverse.lookup place = none := List.lookup_eq_none_iff.mpr fun e he => by
    simpa using (h e (List.mem_reverse.mp he)).symm
  rw [bytesAfter?, hnone]
  rfl

end BytesAfter

section Extract

variable (env : Environment)

/-- Nothing but a message comes of a path that is not safe, if the message can be shown. -/
theorem outcome_writeEntry_of_not_isSafe (out : Path) (files : FileSet) (count : Nat)
    (h : ¬ IsSafe path) (p : Progress) :
    (∃ messages, (writeEntry env out files count path).outcome p =
        (.ok count, { p with messages := messages })) ∨
      ∃ e, (writeEntry env out files count path).outcome p = (.error (.failed (.markup e)), p) := by
  rw [writeEntry, safePath?_of_not_isSafe h]
  dsimp only
  rw [Session.tell]
  cases Console.print env.consoleWidth
    [.text ("[yellow]Skipping unsafe path: " ++ path ++ "[/yellow]")] with
  | ok t => exact .inl ⟨p.messages ++ t, rfl⟩
  | error e => exact .inr ⟨e, rfl⟩

/-- A file whose path is safe is written below the directory, or the command stops there. -/
theorem outcome_writeEntry_of_isSafe (out : Path) (files : FileSet) (count : Nat) (h : IsSafe path)
    (p : Progress) :
    (∃ stop, (writeEntry env out files count path).outcome p = (.error stop, p)) ∨
      ∃ w, (writeEntry env out files count path).outcome p =
          (.ok (count + 1), { p with workspace := w }) ∧
        w.directory = p.workspace.directory ∧
        ∀ place, w.root.bytes? place =
          if place = p.workspace.target out ++ (Path.ofText path).segments then
            some (files.content path).utf8Bytes
          else p.workspace.root.bytes? place := by
  rw [writeEntry, safePath?_of_isSafe h]
  dsimp only
  rcases outcome_writeFile { out with segments := out.segments ++ (Path.ofText path).segments }
      (files.content path) p with ⟨stop, hstop⟩ | ⟨w, hwrite, hwritten⟩
  · exact .inl ⟨stop, outcome_bind_error hstop⟩
  · have habove : (".." : Text) ∉ (Path.ofText path).segments :=
      fun hmem => (h.isName _ hmem).ne_above rfl
    obtain ⟨hdirectory, hbytes⟩ := Workspace.write_eq_ok hwrite
    rw [Workspace.target_below habove] at hbytes
    exact .inr ⟨w, (outcome_bind_ok hwritten).trans rfl, hdirectory, hbytes⟩

theorem writes_entries (out : Path) (files : FileSet) (paths : List Text) (count : Nat)
    (p : Progress) :
    Writes p.workspace (entriesBelow (p.workspace.target out) files paths)
      ((paths.foldlM (writeEntry env out files) count).outcome p) := by
  induction paths generalizing count p with
  | nil => exact ⟨[], List.nil_prefix, rfl, fun _ => rfl, fun _ _ => rfl⟩
  | cons path paths ih =>
    rw [List.foldlM_cons]
    by_cases hsafe : IsSafe path
    · rw [entriesBelow_cons_of_isSafe hsafe]
      rcases outcome_writeEntry_of_isSafe env out files count hsafe p with
        ⟨stop, hstop⟩ | ⟨w, hwritten, hdirectory, hbytes⟩
      · rw [outcome_bind_error hstop]
        exact .stopped stop p
      · have hrest := ih (count + 1) { p with workspace := w }
        have htarget : w.target out = p.workspace.target out := by
          rw [Workspace.target, Workspace.target, Workspace.start, hdirectory]
          rfl
        rw [htarget] at hrest
        rw [outcome_bind_ok hwritten]
        exact hrest.cons hdirectory hbytes
    · rw [entriesBelow_cons_of_not_isSafe hsafe]
      rcases outcome_writeEntry_of_not_isSafe env out files count hsafe p with
        ⟨messages, hskip⟩ | ⟨e, hskip⟩
      · rw [outcome_bind_ok hskip]
        exact ih count { p with messages := messages }
      · rw [outcome_bind_error hskip]
        exact .stopped _ p

/-- The files in the response that a path leads to. -/
def responseFiles (w : Workspace) (response : Text) : FileSet :=
  ((w.bytes? response).bind ofUtf8?).elim .empty fun t => Response.files t.unifyLineEnds

theorem responseFiles_of_text {w : Workspace} {response t : Text}
    (h : (w.bytes? response).bind ofUtf8? = some t) :
    responseFiles w response = Response.files t.unifyLineEnds := by
  rw [responseFiles, h]
  rfl

/-- What extraction into a directory writes. -/
theorem writes_extract (inJson : Bool) (response out : Text) (p : Progress) :
    Writes p.workspace
      (entriesBelow (p.workspace.placeOf out) (responseFiles p.workspace response)
        (responseFiles p.workspace response).sortedPaths)
      ((extract env inJson response (some out)).outcome p) := by
  refine .looks_bind (looks_fileAt response) fun bytes hbytes => ?_
  have hfound : p.workspace.bytes? response = some bytes := by
    change (orUsage (p.workspace.bytes? response)).outcome p = _ at hbytes
    cases hfile : p.workspace.bytes? response with
    | none => rw [hfile] at hbytes; cases hbytes
    | some bytes' => rw [hfile] at hbytes; cases hbytes; rfl
  cases htext : ofUtf8? bytes with
  | none => exact .stopped _ p
  | some t =>
    have hresponse : (p.workspace.bytes? response).bind ofUtf8? = some t := by
      rw [hfound, Option.bind_some, htext]
    rw [responseFiles_of_text hresponse, ← Workspace.target_ofText]
    refine .bind_leaves (writes_entries env _ _ _ 0 p) fun _ => (leaves_tell _ _).bind fun _ => ?_
    cases inJson with
    | true => exact leaves_putJson _
    | false => exact (looks_orFail Failure.unwritable _).leaves.bind fun _ => leaves_tell _ _

end Extract

theorem writes_session (env : Environment) (w : Workspace) {arguments rest : List Text}
    {inJson : Bool} {response out : Text}
    (hopening : Opening.read? arguments = some (.command inJson .extract rest))
    (hrequest : Request.read? .extract rest = some (.extract response (some out))) :
    Writes w
      (entriesBelow (w.placeOf out) (responseFiles w response)
        (responseFiles w response).sortedPaths)
      ((session env arguments).outcome { workspace := w }) := by
  rw [session, hopening, outcome_bind_ok (outcome_orUsage _ _)]
  refine .looks_bind (looks_settings env) fun s _ => ?_
  rw [hrequest, outcome_bind_ok (outcome_orUsage _ _)]
  exact writes_extract env inJson response out _

theorem mem_entriesBelow {directory : List Text} {files : FileSet} {e : List Text × Text} :
    e ∈ entriesBelow directory files files.sortedPaths ↔ ∃ path ∈ files.paths, IsSafe path ∧
      e = (directory ++ (Path.ofText path).segments, files.content path) := by
  simp only [entriesBelow, List.mem_filterMap, FileSet.mem_sortedPaths]
  refine exists_congr fun path => and_congr_right fun _ => ?_
  by_cases hsafe : IsSafe path
  · simp [safePath?_of_isSafe hsafe, hsafe, eq_comm]
  · simp [safePath?_of_not_isSafe hsafe, hsafe]

/-- Each file that extraction creates or overwrites has a safe path, and stands below the directory
where the path says, unless the path is nothing but `.` steps. A path that is not safe is passed
over: nothing is written for it, and the command goes on unless its message cannot be shown. -/
theorem run_extract (env : Environment) (w : Workspace) {arguments rest : List Text}
    {inJson : Bool} {response out : Text}
    (hopening : Opening.read? arguments = some (.command inJson .extract rest))
    (hrequest : Request.read? .extract rest = some (.extract response (some out))) :
    (∃ written,
        (∀ place, (run env w arguments).progress.workspace.root.bytes? place =
          bytesAfter? w.root written place) ∧
        (∀ e ∈ written, ∃ path ∈ (responseFiles w response).paths, IsSafe path ∧
          e = (w.placeOf out ++ (Path.ofText path).segments,
            (responseFiles w response).content path) ∧
          (∀ s ∈ (Path.ofText path).segments, IsName s) ∧
          ((Path.ofText path).segments = [] →
            ∀ step ∈ path.splitOn '/', step = [] ∨ step = ".")) ∧
        ((run env w arguments).stop = none →
          ∀ path ∈ (responseFiles w response).paths, IsSafe path →
            (w.placeOf out ++ (Path.ofText path).segments,
              (responseFiles w response).content path) ∈ written)) ∧
      ∀ files count path, ¬ IsSafe path → ∀ p,
        (∃ messages, (writeEntry env (Path.ofText out) files count path).outcome p =
          (.ok count, { p with messages := messages })) ∨
        ∃ e, (writeEntry env (Path.ofText out) files count path).outcome p =
          (.error (.failed (.markup e)), p) := by
  refine ⟨?_, fun files count path h p =>
    outcome_writeEntry_of_not_isSafe env _ files count h p⟩
  obtain ⟨written, hwritten, -, hbytes, hall⟩ := writes_session env w hopening hrequest
  rw [← progress_run] at hbytes
  refine ⟨written, hbytes, fun e he => ?_, fun hstop path hpath hsafe => ?_⟩
  · obtain ⟨path, hpath, hsafe, heq⟩ := mem_entriesBelow.mp (hwritten.subset he)
    refine ⟨path, hpath, hsafe, heq, hsafe.isName, fun hnil step hstep => ?_⟩
    by_contra hne
    rw [not_or] at hne
    have hmem := mem_segments_ofText.mpr ⟨hstep, hne⟩
    rw [hnil] at hmem
    cases hmem
  · rw [hall () (stop_run_eq_none_iff env w arguments |>.mp hstop)]
    exact mem_entriesBelow.mpr ⟨path, hpath, hsafe, rfl⟩

theorem exists_ok_of_toOption {ε : Type} {x : Except ε α} {a : α} (h : x.toOption = some a) :
    x = .ok a := by
  cases x with
  | ok b => exact congrArg _ (Option.some.inj h)
  | error e => cases h

theorem Session.Looks.outcome_of_toBool {x : Session α} (hx : Looks x)
    (h : (x.outcome p).1.toBool = true) : ∃ a, x.outcome p = (.ok a, p) := by
  have hxp := hx p
  cases hp : x.outcome p with
  | mk e q =>
    rw [hp] at hxp h
    obtain rfl : q = p := hxp
    cases e with
    | ok a => exact ⟨a, rfl⟩
    | error stop => cases h

/-- The command comes to its end if there is nothing wrong with the settings and the response, each
file can be written, and the message about them can be shown. -/
theorem stop_run_extract {env : Environment} {w : Workspace} {arguments rest : List Text}
    {response out t : Text} {n : Nat}
    (hopening : Opening.read? arguments = some (.command true .extract rest))
    (hrequest : Request.read? .extract rest = some (.extract response (some out)))
    (hsettings : ((settings env).outcome { workspace := w }).1.toBool = true)
    (htext : (w.bytes? response).bind ofUtf8? = some t)
    (hwritten : ((writeExtracted env (Path.ofText out) (Response.files t.unifyLineEnds)).outcome
      { workspace := w }).1.toOption = some n)
    (htold : (Console.print env.consoleWidth [.text ("[green]Wrote " ++ ofNat n ++
      " file(s) to " ++ (Path.ofText out).toText ++ "[/green]")]).toBool = true) :
    (run env w arguments).stop = none := by
  obtain ⟨s, hs⟩ := (looks_settings env).outcome_of_toBool hsettings
  obtain ⟨bytes, hbytes, htext⟩ := Option.bind_eq_some_iff.mp htext
  have hfile : (fileAt response).outcome { workspace := w } = (.ok bytes, { workspace := w }) := by
    show (orUsage (w.bytes? response)).outcome _ = _
    rw [hbytes]
    rfl
  rw [stop_run_eq_none_iff, session, hopening, outcome_bind_ok (outcome_orUsage _ _)]
  dsimp only
  rw [outcome_bind_ok hs, hrequest, outcome_bind_ok (outcome_orUsage _ _)]
  show ((extract env true response (some out)).outcome _).1 = _
  rw [extract, outcome_bind_ok hfile, htext]
  dsimp only
  cases hp : (writeExtracted env (Path.ofText out) (Response.files t.unifyLineEnds)).outcome
      { workspace := w } with
  | mk e q =>
    rw [hp] at hwritten
    obtain rfl := exists_ok_of_toOption hwritten
    rw [outcome_bind_ok hp, Session.tell]
    cases hprint : Console.print env.consoleWidth [.text ("[green]Wrote " ++ ofNat n ++
      " file(s) to " ++ (Path.ofText out).toText ++ "[/green]")] with
    | ok message => rfl
    | error e => rw [hprint] at htold; cases htold

/-- A working directory with a response in a file. -/
def respondedWorkspace (response : Text) : Workspace where
  root := .directory [("r.md", .file response.utf8Bytes)]
  directory := []

def extracting : List Text := ["--json", "extract", "r.md", "--out", "new"]

theorem read?_extracting : Opening.read? extracting =
    some (.command true .extract ["r.md", "--out", "new"]) := rfl

theorem read?_extract : Request.read? .extract ["r.md", "--out", "new"] =
    some (.extract "r.md" (some "new")) := rfl

def noSettings : Environment := { now := ⟨0, 0, some 0⟩ }

theorem told_extracting : (Console.print noSettings.consoleWidth [.text ("[green]Wrote " ++
    ofNat 1 ++ " file(s) to " ++ (Path.ofText "new").toText ++ "[/green]")]).toBool = true := by
  decide +kernel

/-- A response with a file whose path is safe, and one whose path leads back. -/
def leadingBack : Text :=
  "// filename: src/a.js\n\x60\x60\x60\nf()\n\x60\x60\x60\n" ++
  "// filename: ../b.js\n\x60\x60\x60\ng()\n\x60\x60\x60\n"

theorem run_extract_leadingBack :
    (Opening.read? extracting = some (.command true .extract ["r.md", "--out", "new"]) ∧
      Request.read? .extract ["r.md", "--out", "new"] = some (.extract "r.md" (some "new"))) ∧
      (run noSettings (respondedWorkspace leadingBack) extracting).stop = none ∧
      (run noSettings (respondedWorkspace leadingBack) extracting).progress.workspace.root.bytes?
        ["new", "src", "a.js"] = some (utf8Bytes "f()") ∧
      (run noSettings (respondedWorkspace leadingBack) extracting).progress.workspace.root.bytes?
        ["b.js"] = none := by
  obtain ⟨⟨written, hbytes, hmem, hall⟩, -⟩ :=
    run_extract noSettings (respondedWorkspace leadingBack) read?_extracting read?_extract
  have htext : ((respondedWorkspace leadingBack).bytes? "r.md").bind ofUtf8? =
      some leadingBack := by decide +kernel
  have hpaths : (Response.files leadingBack.unifyLineEnds).paths =
      [("src/a.js" : Text), "../b.js"] := by decide +kernel
  have hsorted : (Response.files leadingBack.unifyLineEnds).sortedPaths =
      [("../b.js" : Text), "src/a.js"] := by
    have hperm : List.Perm [("src/a.js" : Text), "../b.js"] ["../b.js", "src/a.js"] := .swap ..
    rw [FileSet.sortedPaths, hpaths]
    exact eq_of_perm_of_pairwise ((sort_perm _).trans hperm) (pairwise_sort _) (by decide +kernel)
  have hwritten : ((writeExtracted noSettings (Path.ofText "new")
      (Response.files leadingBack.unifyLineEnds)).outcome
        { workspace := respondedWorkspace leadingBack }).1.toOption = some 1 := by
    rw [writeExtracted, hsorted]
    decide +kernel
  have hstop := stop_run_extract read?_extracting read?_extract (by decide +kernel) htext hwritten
    told_extracting
  have hcontent : (Response.files leadingBack.unifyLineEnds).content "src/a.js" = "f()" := by
    decide +kernel
  rw [responseFiles_of_text htext, hpaths] at hmem hall
  have honly : ∀ e ∈ written, e = ([("new" : Text), "src", "a.js"], ("f()" : Text)) := by
    intro e he
    obtain ⟨path, hpath, hsafe, rfl, -⟩ := hmem e he
    rcases List.mem_cons.mp hpath with rfl | hpath
    · rw [hcontent]
      decide +kernel
    · rw [List.mem_singleton.mp hpath] at hsafe
      exact absurd hsafe (by decide +kernel)
  have hin := hall hstop "src/a.js" List.mem_cons_self (by decide +kernel)
  rw [honly _ hin] at hin
  refine ⟨⟨read?_extracting, read?_extract⟩, hstop, ?_, ?_⟩
  · rw [hbytes, bytesAfter?_of_mem hin fun c hc => congrArg Prod.snd (honly _ hc)]
  · rw [hbytes, bytesAfter?_of_not_mem fun e he => by rw [honly e he]; decide +kernel]
    rfl

/-- A response with a file whose path is nothing but a point. -/
def pointingHere : Text := "// filename: .\n\x60\x60\x60\nhi\n\x60\x60\x60\n"

/-- The file takes the place of the directory for the files. -/
theorem run_extract_pointingHere :
    (respondedWorkspace pointingHere).placeOf "new" = ["new"] ∧
      (respondedWorkspace pointingHere).root.bytes? ["new"] = none ∧
      (run noSettings (respondedWorkspace pointingHere) extracting).stop = none ∧
      (run noSettings (respondedWorkspace pointingHere) extracting).progress.workspace.root.bytes?
        ["new"] = some (utf8Bytes "hi") := by
  have htext : ((respondedWorkspace pointingHere).bytes? "r.md").bind ofUtf8? =
      some pointingHere := by decide +kernel
  have hsorted : (Response.files pointingHere.unifyLineEnds).sortedPaths = [("." : Text)] := by
    have hpaths : (Response.files pointingHere.unifyLineEnds).paths = [("." : Text)] := by
      decide +kernel
    rw [FileSet.sortedPaths, hpaths, Text.sort, List.mergeSort_singleton]
  have hwritten : ((writeExtracted noSettings (Path.ofText "new")
      (Response.files pointingHere.unifyLineEnds)).outcome
        { workspace := respondedWorkspace pointingHere }).1.toOption = some 1 := by
    rw [writeExtracted, hsorted]
    decide +kernel
  have hstop := stop_run_extract read?_extracting read?_extract (by decide +kernel) htext hwritten
    told_extracting
  obtain ⟨written, -, -, hbytes, hall⟩ :=
    writes_session noSettings (respondedWorkspace pointingHere) read?_extracting read?_extract
  refine ⟨by decide +kernel, by decide +kernel, hstop, ?_⟩
  rw [progress_run, hbytes, hall () (stop_run_eq_none_iff _ _ _ |>.mp hstop),
    responseFiles_of_text htext, hsorted]
  decide +kernel

end SitePreview.Command
