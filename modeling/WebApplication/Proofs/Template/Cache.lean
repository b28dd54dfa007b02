import WebApplication.Proofs.Storage.Files
import WebApplication.Template.Engine

/-!
# Templates that were read before

What an engine answers is what one that keeps nothing answers for the files of one moment: of the
first rendering of the template that could read it, and as long as there was none, of now. Nothing
else of what happened before matters: renderings that failed or were of other templates could as
well be left out.
-/

set_option autoImplicit false

namespace WebApplication.Template

open Json (Value)
open Storage (Files)

/-! ## An engine that keeps nothing -/

def pageOf (name text : String) (model : Value) : Except Error String :=
  match parse text with
  | .ok nodes => .ok (renderModel nodes model)
  | .error flaw => .error (.malformed name flaw)

def plain (s : Settings) (files : Files) (name : String) (model : Value) : Except Error String :=
  match s.registered.lookup name with
  | some text => pageOf name text model
  | none =>
    match files.read? (s.before++name++s.after) with
    | some text => pageOf name text model
    | none => .error (.notFound name (s.before++name++s.after))

/-! ## What happens around an engine -/

inductive Act where
  | render (name : String) (model : Value)
  | write (path content : String)
  | remove (path : String)
  /-- Whatever else is done to files. -/
  | replace (later : Files)

def Act.onFiles (files : Files) : Act → Files
  | .render _ _ => files
  | .write path content => files.write path content
  | .remove path => files.remove path
  | .replace later => later

def filesAfter : List Act → Files → Files
  | [], files => files
  | act::acts, files => filesAfter acts (act.onFiles files)

structure Desk where
  files : Files
  cache : Cache

def Desk.start (files : Files) : Desk := ⟨files, []⟩

def Desk.answer (s : Settings) (desk : Desk) (name : String) (model : Value) :
    Except Error String :=
  (s.render desk.files name model desk.cache).1

def Desk.step (s : Settings) (desk : Desk) : Act → Desk
  | .render name model => { desk with cache := (s.render desk.files name model desk.cache).2 }
  | act => { desk with files := act.onFiles desk.files }

def Desk.run (s : Settings) (desk : Desk) : List Act → Desk
  | [] => desk
  | act::acts => (desk.step s act).run s acts

/-- The files of the moment when a template was first rendered with success, from files on that
some acts began with. -/
inductive FirstRead (s : Settings) (name : String) : Files → List Act → Files → Prop
  | here {files : Files} {model : Value} {page : String} {acts : List Act}
      (h : plain s files name model = .ok page) :
      FirstRead s name files (.render name model::acts) files
  | later {files past : Files} {act : Act} {acts : List Act}
      (hact : ∀ model page, act = .render name model → plain s files name model ≠ .ok page)
      (h : FirstRead s name (act.onFiles files) acts past) :
      FirstRead s name files (act::acts) past

/-! ## One act -/

section Steps

variable {s : Settings} {files : Files} {name : String}

def readNow (s : Settings) (files : Files) (name : String) : Except Error (List Node) :=
  (s.source files name).bind (parseNamed name)

theorem plain_eq (model : Value) :
    plain s files name model = (readNow s files name).map (renderModel · model) := by
  have hpage : ∀ text, pageOf name text model =
      (parseNamed name text).map (renderModel · model) := by
    intro text
    rw [pageOf, parseNamed]
    cases parse text <;> rfl
  rw [plain, readNow, Settings.source, Settings.pathFor]
  cases s.registered.lookup name with
  | some text => exact hpage text
  | none =>
    cases files.read? (s.before++name++s.after) with
    | some text => exact hpage text
    | none => rfl

theorem plain_of_read {text : String} (hnew : s.registered.lookup name = none)
    (hread : files.read? (s.pathFor name) = some text) (model : Value) :
    plain s files name model = pageOf name text model := by
  rw [Settings.pathFor] at hread
  rw [plain, hnew]
  dsimp only
  rw [hread]

theorem plain_ok_iff {model : Value} {page : String} :
    plain s files name model = .ok page ↔
      ∃ nodes, readNow s files name = .ok nodes ∧ renderModel nodes model = page := by
  rw [plain_eq]
  cases readNow s files name with
  | error e => simp [Except.map]
  | ok nodes => simp [Except.map]

theorem load_eq (s : Settings) (files : Files) (name : String) (cache : Cache) :
    s.load files name cache =
      match cache.lookup name, readNow s files name with
      | some nodes, _ => (.ok nodes, cache)
      | none, .ok nodes => (.ok nodes, (name, nodes)::cache)
      | none, .error e => (.error e, cache) := by
  rw [Settings.load, readNow]
  cases cache.lookup name with
  | some nodes => rfl
  | none =>
    cases s.source files name with
    | error e => rfl
    | ok text =>
      dsimp only [Except.bind]
      cases parseNamed name text <;> rfl

theorem render_snd (s : Settings) (files : Files) (name : String) (model : Value) (cache : Cache) :
    (s.render files name model cache).2 = (s.load files name cache).2 := by
  rw [Settings.render]
  rcases s.load files name cache with ⟨_ | _, _⟩ <;> rfl

theorem answer_eq (desk : Desk) (model : Value) :
    desk.answer s name model =
      ((desk.cache.lookup name).elim (readNow s desk.files name) .ok).map (renderModel · model) := by
  rw [Desk.answer, Settings.render, load_eq]
  cases desk.cache.lookup name with
  | some nodes => rfl
  | none => cases readNow s desk.files name <;> rfl

def Act.gives (s : Settings) (files : Files) (name : String) : Act → Option (List Node)
  | .render other _ => if other = name then (readNow s files name).toOption else none
  | _ => none

theorem gives_eq_none_iff {act : Act} :
    act.gives s files name = none ↔
      ∀ model page, act = .render name model → plain s files name model ≠ .ok page := by
  cases act with
  | write path content => simp [Act.gives]
  | remove path => simp [Act.gives]
  | replace later => simp [Act.gives]
  | render other model =>
    rw [Act.gives]
    by_cases hname : other = name
    · subst hname
      rw [if_pos rfl]
      constructor
      · rintro hnone model page ⟨⟩ hpage
        obtain ⟨nodes, hread, -⟩ := plain_ok_iff.mp hpage
        rw [hread] at hnone
        cases hnone
      · intro h
        cases hread : readNow s files other with
        | error e => rfl
        | ok nodes => exact absurd (plain_ok_iff.mpr ⟨nodes, hread, rfl⟩) (h model _ rfl)
    · simp [hname]

/-- Kept is what was kept before, and else what the act gives. -/
theorem lookup_step (desk : Desk) (act : Act) :
    (desk.step s act).cache.lookup name =
      (desk.cache.lookup name).or (act.gives s desk.files name) := by
  cases act with
  | write path content => simp [Desk.step, Act.gives]
  | remove path => simp [Desk.step, Act.gives]
  | replace later => simp [Desk.step, Act.gives]
  | render other model =>
    rw [Desk.step, render_snd, load_eq, Act.gives]
    by_cases hname : other = name
    · subst hname
      rw [if_pos rfl]
      cases hkept : desk.cache.lookup other with
      | some nodes => simp [hkept]
      | none => cases hread : readNow s desk.files other <;> simp [hkept, Except.toOption]
    · have hne : (name == other) = false := by simpa using Ne.symm hname
      rw [if_neg hname]
      cases desk.cache.lookup other with
      | some nodes => simp
      | none => cases readNow s desk.files other <;> simp [List.lookup_cons, hne]

theorem files_step (desk : Desk) (act : Act) :
    (desk.step s act).files = act.onFiles desk.files := by
  cases act <;> rfl

end Steps

/-! ## Whole runs -/

section Runs

variable {s : Settings} {name : String}

theorem files_run (acts : List Act) (desk : Desk) :
    (desk.run s acts).files = filesAfter acts desk.files := by
  induction acts generalizing desk with
  | nil => rfl
  | cons act acts ih => rw [Desk.run, ih, files_step, filesAfter]

theorem run_append (acts others : List Act) (desk : Desk) :
    desk.run s (acts++others) = (desk.run s acts).run s others := by
  induction acts generalizing desk with
  | nil => rfl
  | cons act acts ih => exact ih (desk.step s act)

theorem lookup_run_of_some {desk : Desk} {nodes : List Node}
    (h : desk.cache.lookup name = some nodes) (acts : List Act) :
    (desk.run s acts).cache.lookup name = some nodes := by
  induction acts generalizing desk with
  | nil => exact h
  | cons act acts ih => exact ih (by rw [lookup_step, h, Option.some_or])

/-- What the first successful rendering read is kept. -/
theorem lookup_run_of_firstRead {acts : List Act} {files past : Files}
    (h : FirstRead s name files acts past) (desk : Desk) (hfiles : desk.files = files)
    (hnone : desk.cache.lookup name = none) :
    ∃ nodes, readNow s past name = .ok nodes ∧
      (desk.run s acts).cache.lookup name = some nodes := by
  induction h generalizing desk with
  | @here files model page acts h =>
    obtain ⟨nodes, hread, -⟩ := plain_ok_iff.mp h
    refine ⟨nodes, hread, lookup_run_of_some ?_ acts⟩
    rw [lookup_step, hnone, hfiles, Act.gives, if_pos rfl, hread]
    rfl
  | @later files past act acts hact _ ih =>
    have hgives : act.gives s desk.files name = none := by
      rw [hfiles]
      exact gives_eq_none_iff.mpr hact
    exact ih (desk.step s act) (by rw [files_step, hfiles])
      (by rw [lookup_step, hnone, hgives]; rfl)

theorem not_firstRead_of_unrendered {acts : List Act} {files past : Files}
    (h : ∀ model, Act.render name model ∉ acts) : ¬ FirstRead s name files acts past := by
  intro hread
  induction hread with
  | here _ => exact h _ List.mem_cons_self
  | later _ _ ih => exact ih fun model hmem => h model (List.mem_cons_of_mem _ hmem)

theorem lookup_run_of_none {acts : List Act} (desk : Desk)
    (h : ∀ past, ¬ FirstRead s name desk.files acts past)
    (hnone : desk.cache.lookup name = none) : (desk.run s acts).cache.lookup name = none := by
  induction acts generalizing desk with
  | nil => exact hnone
  | cons act acts ih =>
    have hact : ∀ model page, act = .render name model →
        plain s desk.files name model ≠ .ok page := by
      rintro model page rfl hpage
      exact h desk.files (.here hpage)
    have hgives : act.gives s desk.files name = none := gives_eq_none_iff.mpr hact
    refine ih (desk.step s act) (fun past hpast => h past (.later hact ?_)) ?_
    · rwa [files_step] at hpast
    · rw [lookup_step, hnone, hgives]
      rfl

structure Desk.Alike (name : String) (desk other : Desk) : Prop where
  files : desk.files = other.files
  kept : desk.cache.lookup name = other.cache.lookup name

namespace Desk.Alike

variable {desk other : Desk}

theorem run (h : desk.Alike name other) (acts : List Act) :
    (desk.run s acts).Alike name (other.run s acts) := by
  induction acts generalizing desk other with
  | nil => exact h
  | cons act acts ih =>
    apply ih
    constructor
    · rw [files_step, files_step, h.files]
    · rw [lookup_step, lookup_step, h.files, h.kept]

theorem answer (h : desk.Alike name other) (model : Value) :
    desk.answer s name model = other.answer s name model := by
  rw [answer_eq, answer_eq, h.files, h.kept]

end Desk.Alike

theorem step_failed {desk : Desk} {model : Value} {e : Error}
    (h : desk.answer s name model = .error e) : desk.step s (.render name model) = desk := by
  rw [answer_eq] at h
  rw [Desk.step, render_snd, load_eq]
  cases hkept : desk.cache.lookup name with
  | some nodes => rfl
  | none =>
    rw [hkept] at h
    cases hread : readNow s desk.files name with
    | ok nodes =>
      rw [Option.elim_none, hread] at h
      cases h
    | error e => rfl

theorem alike_step {other : String} {desk : Desk} {model : Value}
    (h : other ≠ name ∨ ∃ e, desk.answer s other model = .error e) :
    desk.Alike name (desk.step s (.render other model)) := by
  rcases h with hname | ⟨e, he⟩
  · exact ⟨rfl, by rw [lookup_step, Act.gives, if_neg hname, Option.or_none]⟩
  · rw [step_failed he]
    exact ⟨rfl, rfl⟩

end Runs

/-! ## The first good source -/

/-- An engine answers as one that keeps nothing does, for the files of the first rendering of the
template that could read it, and for those of now while there was none. A registered template is
rendered whatever the files are. A rendering that failed, or was of another template, changes no
answer. -/
theorem rendered_as_first_read (s : Settings) (files : Files) (acts : List Act) (name : String)
    (model : Value) :
    let answer := ((Desk.start files).run s acts).answer s name model
    (∀ text, s.registered.lookup name = some text → answer = pageOf name text model) ∧
    (∀ past, FirstRead s name files acts past →
      answer = plain s past name model ∧ ∃ page, answer = .ok page) ∧
    ((∀ past, ¬ FirstRead s name files acts past) →
      answer = plain s (filesAfter acts files) name model) ∧
    ∀ before other model' later, acts = before++.render other model'::later →
      (other ≠ name ∨ ∃ e, ((Desk.start files).run s before).answer s other model' = .error e) →
      ((Desk.start files).run s (before++later)).answer s name model = answer := by
  intro answer
  have hanswer : answer = _ := answer_eq _ model
  have hfirst : ∀ past, FirstRead s name files acts past →
      answer = plain s past name model ∧ ∃ page, answer = .ok page := by
    intro past h
    obtain ⟨nodes, hread, hkept⟩ := lookup_run_of_firstRead h (Desk.start files) rfl rfl
    rw [hkept, Option.elim_some] at hanswer
    exact ⟨by rw [hanswer, plain_eq, hread], renderModel nodes model, hanswer⟩
  have hnever : (∀ past, ¬ FirstRead s name files acts past) →
      answer = plain s (filesAfter acts files) name model := by
    intro h
    have hkept := lookup_run_of_none (Desk.start files) h rfl
    rw [hkept, Option.elim_none, files_run] at hanswer
    rw [hanswer, plain_eq]
    rfl
  refine ⟨fun text htext => ?_, hfirst, hnever, ?_⟩
  · have hplain : ∀ other, plain s other name model = pageOf name text model := by
      intro other
      rw [plain, htext]
    by_cases h : ∃ past, FirstRead s name files acts past
    · obtain ⟨past, h⟩ := h
      rw [(hfirst past h).1, hplain]
    · rw [hnever fun past hpast => h ⟨past, hpast⟩, hplain]
  · rintro before other model' later rfl hact
    show ((Desk.start files).run s (before++later)).answer s name model =
      ((Desk.start files).run s (before++.render other model'::later)).answer s name model
    rw [run_append, run_append]
    exact ((alike_step hact).run later).answer model

def notes : Settings := ⟨"/pages/", ".mustache", [("note", "Note: \x7b\x7b.\x7d\x7d")]⟩

def brokenPage : String := "\x7b\x7b#a\x7d\x7d"

def greetingPage : String := "Hello \x7b\x7b.\x7d\x7d"

def mended : List Act :=
  [.write "/pages/page.mustache" brokenPage, .render "page" .null,
    .write "../pages/page.mustache" greetingPage, .render "note" .null,
    .render "page" (.string "Ada"), .remove "/pages/page.mustache"]

def mendedFiles : Files :=
  (Files.empty.write "/pages/page.mustache" brokenPage).write "../pages/page.mustache" greetingPage

theorem mended_page_kept :
    (filesAfter mended .empty).read? (notes.pathFor "page") = none ∧
    ((Desk.start .empty).run notes mended).answer notes "page" (.string "Bob") = .ok "Hello Bob" ∧
    ((Desk.start .empty).run notes mended).answer notes "note" (.string "x") = .ok "Note: x" ∧
    ((Desk.start .empty).run notes (mended.take 1)).answer notes "page" .null =
      .error (.malformed "page" (.neverClosed "a")) ∧
    ((Desk.start .empty).run notes (mended.take 3)).answer notes "page" .null = .ok "Hello " := by
  have hnew : notes.registered.lookup "page" = none := rfl
  have hgreeting : parse greetingPage = .ok [.text "Hello ", .var "." true] := by cbv
  have hnote : parse "Note: \x7b\x7b.\x7d\x7d" = .ok [.text "Note: ", .var "." true] := by cbv
  have hplace : Files.empty.key? "/pages/page.mustache" = some "pages/page.mustache" := by
    decide +kernel
  have hback : (filesAfter (mended.take 1) .empty).key? "../pages/page.mustache" =
      some "pages/page.mustache" := by
    decide +kernel
  have hread₁ : (filesAfter (mended.take 1) .empty).read? (notes.pathFor "page") =
      some brokenPage :=
    Files.read?_write hplace (by decide +kernel) hplace brokenPage
  have hread₂ : mendedFiles.read? (notes.pathFor "page") = some greetingPage :=
    Files.read?_write hback (by decide +kernel) (by decide +kernel) greetingPage
  have hbroken : ∀ model, plain notes (filesAfter (mended.take 1) .empty) "page" model =
      .error (.malformed "page" (.neverClosed "a")) := by
    intro model
    have hparse : parse brokenPage = .error (.neverClosed "a") := by cbv
    rw [plain_of_read hnew hread₁, pageOf, hparse]
  have hmended : ∀ model, plain notes mendedFiles "page" model =
      .ok (renderModel [.text "Hello ", .var "." true] model) := by
    intro model
    rw [plain_of_read hnew hread₂, pageOf, hgreeting]
  have hunread : ∀ past, ¬ FirstRead notes "page" .empty (mended.take 1) past := fun past =>
    not_firstRead_of_unrendered (by simp [mended])
  have hread : FirstRead notes "page" .empty mended mendedFiles := by
    refine .later ?_ (.later ?_ (.later ?_ (.later ?_ (.here (hmended _)))))
    · rintro model page ⟨⟩
    · rintro model page ⟨⟩ h
      cases (hbroken .null).symm.trans h
    · rintro model page ⟨⟩
    · intro model page h
      exact absurd (Act.render.inj h).1 (by decide)
  obtain ⟨-, hfirst, -, -⟩ := rendered_as_first_read notes .empty mended "page" (.string "Bob")
  obtain ⟨hinline, -, -, -⟩ := rendered_as_first_read notes .empty mended "note" (.string "x")
  obtain ⟨-, -, hnever, -⟩ := rendered_as_first_read notes .empty (mended.take 1) "page" .null
  obtain ⟨-, -, -, hskip⟩ := rendered_as_first_read notes .empty (mended.take 3) "page" .null
  have hgone : (filesAfter mended .empty).read? (notes.pathFor "page") = none :=
    Files.read?_remove (filesAfter (mended.take 5) .empty) "/pages/page.mustache"
  refine ⟨hgone, ?_, ?_, (hnever hunread).trans (hbroken .null), ?_⟩
  · rw [(hfirst mendedFiles hread).1, hmended]
    rfl
  · rw [hinline _ rfl, pageOf, hnote]
    rfl
  · -- the rendering that failed could as well be left out
    have hskipped := hskip [.write "/pages/page.mustache" brokenPage] "page" .null
      [.write "../pages/page.mustache" greetingPage] rfl
      (.inr ⟨_, (hnever hunread).trans (hbroken .null)⟩)
    obtain ⟨-, -, hwritten, -⟩ := rendered_as_first_read notes .empty
      ([.write "/pages/page.mustache" brokenPage] ++ [.write "../pages/page.mustache" greetingPage])
      "page" .null
    have hlast := hwritten fun past => not_firstRead_of_unrendered (by simp)
    exact hskipped.symm.trans (hlast.trans (hmended .null))

end WebApplication.Template
