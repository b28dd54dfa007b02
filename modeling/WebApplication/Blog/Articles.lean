import WebApplication.Json.Value
import WebApplication.Schema.Shape

/-!
# Articles and their authors

Articles are kept in the order of their numbers. A number is never given twice, also
after its article was deleted.
-/

set_option autoImplicit false

namespace WebApplication.Blog

open Schema (Datum Member Shape)

structure Author where
  login : String
  firstName : String
  lastName : String
  deriving DecidableEq, Repr

def Author.displayName (a : Author) : String := a.firstName++" "++a.lastName

structure Draft where
  title : String
  headline : String
  content : String
  author : String
  deriving DecidableEq, Repr

structure Article where
  id : Nat
  draft : Draft
  deriving DecidableEq, Repr

structure Articles where
  entries : List Article
  lastId : Nat
  deriving DecidableEq, Repr

namespace Articles

def empty : Articles := ⟨[], 0⟩

def find? (a : Articles) (id : Nat) : Option Article := a.entries.find? (·.id == id)

def save (a : Articles) (draft : Draft) : Article × Articles :=
  let article := ⟨a.lastId+1, draft⟩
  (article, ⟨a.entries++[article], a.lastId+1⟩)

def revise (id : Nat) (draft : Draft) (article : Article) : Article :=
  if article.id = id then { article with draft } else article

def update (a : Articles) (id : Nat) (draft : Draft) : Option Article × Articles :=
  match a.find? id with
  | none => (none, a)
  | some _ => (some ⟨id, draft⟩, { a with entries := a.entries.map (revise id draft) })

def delete (a : Articles) (id : Nat) : Bool × Articles :=
  match a.find? id with
  | none => (false, a)
  | some _ => (true, { a with entries := a.entries.filter (·.id ≠ id) })

end Articles

structure State where
  authors : SortedTable Author
  articles : Articles
  deriving DecidableEq, Repr

namespace State

def start : State := ⟨[], Articles.empty⟩

def firstAuthors : List Author :=
  [⟨"smaldini", "Stéphane", "Maldini"⟩, ⟨"sdeleuze", "Sébastien", "Deleuze"⟩,
    ⟨"bclozel", "Brian", "Clozel"⟩]

def firstDrafts : List Draft :=
  [⟨"Reactor Bismuth is out", "Lorem ipsum", "dolor sit amet", "smaldini"⟩,
    ⟨"Reactor Aluminium has landed", "Lorem ipsum", "dolor sit amet", "smaldini"⟩]

def seedAuthors (s : State) : State :=
  { s with authors := firstAuthors.foldl (fun table a => table.insert a.login a) s.authors }

def seedArticles (s : State) : State :=
  let articles := firstDrafts.foldl (fun articles draft => (articles.save draft).2) s.articles
  { s with articles }

def authorName (s : State) (login : String) : String :=
  match s.authors.lookup login with
  | some author => author.displayName
  | none => login

end State

/-! ## Data -/

def Draft.shape : Shape :=
  .record "ArticleInput" false (["title", "headline", "content", "author"].map fun name =>
    Member.required name .text)

def textField (fields : List (String × Datum)) (name : String) : String :=
  match fields.lookup name with
  | some (.text value) => value
  | _ => ""

def Draft.ofDatum : Datum → Draft
  | .record fields => ⟨textField fields "title", textField fields "headline",
      textField fields "content", textField fields "author"⟩
  | _ => ⟨"", "", "", ""⟩

def Article.members (a : Article) : Json.Members :=
  [("id", .ofNat a.id), ("title", .string a.draft.title), ("headline", .string a.draft.headline),
    ("content", .string a.draft.content), ("author", .string a.draft.author)]

def Article.toJson (a : Article) : Json.Value := .object a.members

end WebApplication.Blog
