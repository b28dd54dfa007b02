import WebApplication.Application.Lifecycle
import WebApplication.Blog.Articles
import WebApplication.Http.Reply

/-!
# A blog

Anyone may read the pages; articles are written through an interface that only
administrators may use. The blog fills itself when the application has started.
-/

set_option autoImplicit false

namespace WebApplication.Blog

open Application (Kind World lookup)
open Http (Codec Codecs Request Reply Response)
open Json (Value)

structure City where
  name : String
  country : String
  deriving DecidableEq, Repr

def City.shape : Schema.Shape :=
  .record "City" false [.required "name" .text, .required "country" .text]

def City.ofDatum : Schema.Datum → City
  | .record fields => ⟨textField fields "name", textField fields "country"⟩
  | _ => ⟨"", ""⟩

structure Pages where
  templates : Template.Settings
  city : City

structure Desk where
  codecs : Codecs

inductive OwnKind where
  | city
  | authors
  | articles
  | pages
  | desk
  | other (typeName : String)
  deriving DecidableEq, Repr

def OwnKind.typeName (folder : String) : OwnKind → String
  | city => folder++"::City"
  | authors => folder++"::UserRepository"
  | articles => folder++"::ArticleRepository"
  | pages => folder++"::HtmlHandler"
  | desk => folder++"::ArticleHandler"
  | other name => name

/-- The catalog of the blog; the names of its types start with `folder`. The authors and
the articles themselves are in the state. -/
abbrev ownCatalog (folder : String) : Bean.Catalog where
  Kind := OwnKind
  Event := String
  typeName := OwnKind.typeName folder
  eventName := id
  Instance
    | .city => City
    | .authors => Unit
    | .articles => Unit
    | .pages => Pages
    | .desk => Desk
    | .other _ => Empty

abbrev Beans (folder : String) : Bean.Catalog := Application.catalog (ownCatalog folder) State

variable {folder : String}

/-! ## Pages -/

def indexTemplate : String :=
"<!DOCTYPE html>
<html>
<head><title>\x7b\x7btitle\x7d\x7d</title></head>
<body>
<h1>\x7b\x7btitle\x7d\x7d</h1>
<p>Written in \x7b\x7bcity.name\x7d\x7d, \x7b\x7bcity.country\x7d\x7d</p>
\x7b\x7b#articles\x7d\x7d
<article>
  <h2><a href=\"/article/\x7b\x7bid\x7d\x7d\">\x7b\x7btitle\x7d\x7d</a></h2>
  <p>\x7b\x7bheadline\x7d\x7d</p>
  <small>by \x7b\x7bauthor_name\x7d\x7d</small>
</article>
\x7b\x7b/articles\x7d\x7d
\x7b\x7b^articles\x7d\x7d<p>No articles yet.</p>\x7b\x7b/articles\x7d\x7d
</body>
</html>
"

def articleTemplate : String :=
"<!DOCTYPE html>
<html>
<head><title>\x7b\x7barticle.title\x7d\x7d</title></head>
<body>
<h1>\x7b\x7barticle.title\x7d\x7d</h1>
<p><em>\x7b\x7barticle.headline\x7d\x7d</em></p>
<div>\x7b\x7barticle.content\x7d\x7d</div>
<small>by \x7b\x7bauthor_name\x7d\x7d</small>
<p><a href=\"/\">Back</a></p>
</body>
</html>
"

def addTemplates (s : Template.Settings) : Template.Settings :=
  (s.register "index" indexTemplate).register "article" articleTemplate

def articleId (request : Request) : Option Nat := (request.param? "id").bind Property.word?

def City.toJson (c : City) : Value :=
  .object [("name", .string c.name), ("country", .string c.country)]

def indexModel (city : City) (s : State) : Value :=
  .sorted [("title", .string "Blog"), ("city", city.toJson),
    ("articles", .array (s.articles.entries.map fun a =>
      .sorted (("author_name", .string (s.authorName a.draft.author))::a.members)))]

def articleModel (s : State) (a : Article) : Value :=
  .sorted [("author_name", .string (s.authorName a.draft.author)), ("article", .sorted a.members)]

namespace Pages

def index (p : Pages) (_ : Request) : StateM (World State) Response := do
  let model := indexModel p.city (← get).own
  return Reply.ok.page (← Application.renderTemplate p.templates "index" model)

def article (p : Pages) (request : Request) : StateM (World State) Response := do
  let state := (← get).own
  match (articleId request).bind state.articles.find? with
  | none => return Reply.notFound.text "Article not found"
  | some found =>
    let model := articleModel state found
    return Reply.ok.page (← Application.renderTemplate p.templates "article" model)

end Pages

/-! ## The interface for writers -/

def changing {β : Type} (f : Articles → β × Articles) : StateM (World State) β := fun w =>
  let (result, articles) := f w.own.articles
  (result, { w with own := { w.own with articles } })

namespace Desk

def respond (d : Desk) (status : Nat) (value : Value) : Response :=
  match d.codecs.writeJson status (.ok value) with
  | .ok response => response
  | .error e => e.response

def readDraft (d : Desk) (request : Request) : Except Http.CodecError Draft := do
  .ok (Draft.ofDatum (← d.codecs.readShaped Draft.shape request))

def list (d : Desk) (_ : Request) : StateM (World State) Response := do
  return d.respond 200 (.array ((← get).own.articles.entries.map Article.toJson))

def present (d : Desk) : Option Article → Response
  | some article => d.respond 200 article.toJson
  | none => Reply.notFound.build

def view (d : Desk) (request : Request) : StateM (World State) Response := do
  return d.present ((articleId request).bind (← get).own.articles.find?)

def create (d : Desk) (request : Request) : StateM (World State) Response :=
  match d.readDraft request with
  | .error e => return e.response
  | .ok draft => do return d.respond 201 (← changing (·.save draft)).toJson

def update (d : Desk) (request : Request) : StateM (World State) Response :=
  match articleId request with
  | none => return Reply.notFound.build
  | some id =>
    match d.readDraft request with
    | .error e => return e.response
    | .ok draft => do return d.present (← changing (·.update id draft))

def delete (_ : Desk) (request : Request) : StateM (World State) Response :=
  match articleId request with
  | none => return Reply.notFound.build
  | some id => do
    return if ← changing (·.delete id) then Reply.noContent.build else Reply.notFound.build

end Desk

/-! ## Declarations -/

abbrev Program (folder : String) (β : Type) : Type := Bean.Program (Beans folder) (World State) β

abbrev Definition (folder : String) : Type := Bean.Definition (Beans folder) (World State)

def withBean {β ε : Type} (fail : Bean.Error → ε) (kind : (Beans folder).Kind)
    (next : (Beans folder).Instance kind → Program folder (Except ε β)) :
    Program folder (Except ε β) :=
  (lookup kind).bind fun
    | .ok found => next found
    | .error e => .done (.error (fail e))

def pagesBean : Definition folder :=
  (Bean.Definition.of (Kind.own .pages)
    (withBean .lookup (Kind.own .authors) fun _ =>
      withBean .lookup (Kind.own .articles) fun _ =>
        withBean .lookup Kind.templates fun templates =>
          withBean .lookup (Kind.own .city) fun city => .done (.ok (Pages.mk templates city))))
    |>.needing (.of (Kind.own .authors)) |>.needing (.of (Kind.own .articles))
    |>.needing (.of Kind.templates) |>.needing (.of (Kind.own .city))

def deskBean : Definition folder :=
  (Bean.Definition.of (Kind.own .desk)
    (withBean .lookup (Kind.own .articles) fun _ =>
      withBean .lookup Kind.codecs fun codecs => .done (.ok (Desk.mk codecs))))
    |>.needing (.of (Kind.own .articles)) |>.needing (.of Kind.codecs)

def seeding : Bean.Listener (Beans folder) (World State) :=
  ⟨Application.Event.started,
    withBean .lookup (Kind.own .authors) fun _ =>
      .update (fun w => { w with own := w.own.seedAuthors }) fun _ =>
        withBean .lookup (Kind.own .articles) fun _ =>
          .update (fun w => { w with own := w.own.seedArticles }) fun _ => .done (.ok ())⟩

def pageRoutes : Program folder (Except Bean.Error (List (Route.Item (World State)))) :=
  withBean id (Kind.own .pages) fun (pages : Pages) => .done (.ok
    [.add "GET" "/" ⟨0, .direct, pages.index⟩,
      .add "GET" "/article/\x7bid\x7d" ⟨1, .direct, pages.article⟩])

def deskRoutes : Program folder (Except Bean.Error (List (Route.Item (World State)))) :=
  withBean id (Kind.own .desk) fun (desk : Desk) => .done (.ok
    [.nest "/api"
      [.add "GET" "/" ⟨2, .deferred, desk.list⟩,
        .add "GET" "/\x7bid\x7d" ⟨3, .deferred, desk.view⟩,
        .add "POST" "/" ⟨4, .deferred, desk.create⟩,
        .add "PUT" "/\x7bid\x7d" ⟨5, .deferred, desk.update⟩,
        .add "DELETE" "/\x7bid\x7d" ⟨6, .deferred, desk.delete⟩]])

def accounts : Access.Users :=
  Access.Users.ofList [⟨"admin", "\x7bnoop\x7dadmin", ["ADMIN"], true⟩,
    ⟨"reader", "\x7bnoop\x7dreader", [], true⟩]

def security : Access.Settings (Beans folder) (World State) :=
  (Access.Settings.default _ _).withUsers (.given accounts)
    |>.withRule "/" .permitAll
    |>.withRule "/article/\x7bid\x7d" .permitAll
    |>.withRule "/api/\x7b*rest\x7d" (.hasRole "ADMIN")

def server : Server.Settings (Beans folder) (World State) :=
  (Server.Settings.default _ _).withPort 8080
    |>.withPortFor "test" 8181
    |>.withCors [.ofOrigin "example.com"]
    |>.withTemplates addTemplates
    |>.withCodecs [.text, .json]
    |>.withRoutes (.declared .direct pageRoutes)
    |>.withRoutes (.declared .deferred deskRoutes)
    |>.withSecurity security

abbrev BlockDeclaration (folder : String) : Type :=
  Configuration.Declaration (Beans folder) (World State)

def dataBlock : List (BlockDeclaration folder) :=
  [.name "data", .beans [.ready (Kind.own .authors) (), .ready (Kind.own .articles) ()],
    .listener seeding]

def webBlock : List (BlockDeclaration folder) :=
  [.name "web", .beans [pagesBean, deskBean], .server server,
    Application.clientBean ⟨none, [.text, .json], none⟩]

def logging (s : Logging.Settings) : Logging.Settings :=
  (s.withLevel .info).withLevelFor "dev" .debug |>.withLogger "tower_http" .debug

def spec (folder : String) (file : Option String) :
    Except Configuration.Error (Application.Spec (ownCatalog folder) State) := do
  let data ← Configuration.Block.ofDeclarations "configuration" dataBlock
  let web ← Configuration.Block.ofDeclarations "configuration" webBlock
  Application.Spec.ofDeclarations .reactive
    ([.logging logging, .property "city.name" "Lyon", .property "city.country" "France"]++
      (file.map Application.Declaration.file).toList++
      [.block (.properties "city" ⟨Kind.own .city, City.shape, City.ofDatum⟩),
        .block (.enable data), .block (.enable web)])

end WebApplication.Blog
