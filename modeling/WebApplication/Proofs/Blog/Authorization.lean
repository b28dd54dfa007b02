import WebApplication.Blog.Site
import WebApplication.Proofs.Access.Guard
import WebApplication.Proofs.Access.Password
import WebApplication.Proofs.Access.Setup
import WebApplication.Proofs.Application.Preparation
import WebApplication.Proofs.Application.Requests
import WebApplication.Proofs.Application.Routes
import WebApplication.Proofs.Route.Registration
import WebApplication.Proofs.Server.Changes
import WebApplication.Proofs.SortedTable

/-!
# Who changes the articles of the blog

Once the blog is realized, no request changes its articles but those with the name and the
password of an administrator, on whatever path and in whatever order they come.
-/

set_option autoImplicit false

namespace WebApplication.Blog

open Access (Chain Encoder Manager Requirement)
open Application (Kind Live Realized World)
open Http (Headers Request)
open Route (Below Entry Table)
open Server (AcceptedAs KeptFor Keeps)

variable {folder : String} {file : Option String}
  {spec : Application.Spec (ownCatalog folder) State} {profiles : Profiles}
  {environment : Property.Source}

/-! ## Routes and access rules -/

def pageItems (pages : Pages) : List (Route.Item (World State)) :=
  [.add "GET" "/" ⟨0, .direct, pages.index⟩,
    .add "GET" "/article/\x7bid\x7d" ⟨1, .direct, pages.article⟩]

def pageEntries (pages : Pages) : List (Entry (World State)) :=
  [⟨"GET", ⟨[.literal "", .literal ""]⟩, ⟨0, .direct, pages.index⟩⟩,
    ⟨"GET", ⟨[.literal "", .literal "article", .var "id"]⟩, ⟨1, .direct, pages.article⟩⟩]

theorem table_of_pages (pages : Pages) : Table.ofItems (pageItems pages) = .ok ⟨pageEntries pages⟩ := by
  apply Route.Builder.build_ok_iff.mpr
  refine .cons ?_ (.cons ?_ .nil) <;> (dsimp only; rfl)

def deskItems (desk : Desk) : List (Route.Item (World State)) :=
  [.nest "/api"
    [.add "GET" "/" ⟨2, .deferred, desk.list⟩,
      .add "GET" "/\x7bid\x7d" ⟨3, .deferred, desk.view⟩,
      .add "POST" "/" ⟨4, .deferred, desk.create⟩,
      .add "PUT" "/\x7bid\x7d" ⟨5, .deferred, desk.update⟩,
      .add "DELETE" "/\x7bid\x7d" ⟨6, .deferred, desk.delete⟩]]

def deskEntries (desk : Desk) : List (Entry (World State)) :=
  [⟨"GET", ⟨[.literal "", .literal "api", .literal ""]⟩, ⟨2, .deferred, desk.list⟩⟩,
    ⟨"GET", ⟨[.literal "", .literal "api", .var "id"]⟩, ⟨3, .deferred, desk.view⟩⟩,
    ⟨"POST", ⟨[.literal "", .literal "api", .literal ""]⟩, ⟨4, .deferred, desk.create⟩⟩,
    ⟨"PUT", ⟨[.literal "", .literal "api", .var "id"]⟩, ⟨5, .deferred, desk.update⟩⟩,
    ⟨"DELETE", ⟨[.literal "", .literal "api", .var "id"]⟩, ⟨6, .deferred, desk.delete⟩⟩]

theorem table_of_desk (desk : Desk) : Table.ofItems (deskItems desk) = .ok ⟨deskEntries desk⟩ := by
  apply Route.Builder.build_ok_iff.mpr
  refine .cons ?_ (.cons ?_ (.cons ?_ (.cons ?_ (.cons ?_ .nil)))) <;> (dsimp only; rfl)

def chain : Chain where
  manager := Manager.ofUsers accounts Encoder.default
  rules := [(⟨[.literal "", .literal ""]⟩, .permitAll),
    (⟨[.literal "", .literal "article", .var "id"]⟩, .permitAll),
    (⟨[.literal "", .literal "api", .catchAll "rest"]⟩, .hasRole "ADMIN")]
  challenge := Access.Settings.challenge "webwire"

section Running

variable {ctx : Bean.Context (Beans folder) (World State)}
  {s later : Bean.State (Beans folder) (World State)}

theorem run_withBean_ok {β ε : Type} {fail : Bean.Error → ε} {kind : (Beans folder).Kind}
    {next : (Beans folder).Instance kind → Program folder (Except ε β)} {b : β}
    (h : ctx.run (withBean fail kind next) s = (.ok b, later)) :
    ∃ found middle, ctx.run (next found) middle = (.ok b, later) := by
  have hsame : withBean fail kind next = (Application.lookup kind).andThen fail next :=
    Bean.Program.bind_eq_andThen (fun _ => rfl) fun _ => rfl
  rw [hsame] at h
  obtain ⟨found, middle, -, hnext⟩ := Bean.Context.run_andThen_ok_iff.mp h
  exact ⟨found, middle, hnext⟩

theorem run_pageRoutes_ok {items : List (Route.Item (World State))}
    (h : ctx.run pageRoutes s = (.ok items, later)) : ∃ pages, items = pageItems pages := by
  obtain ⟨pages, middle, hnext⟩ := run_withBean_ok h
  cases hnext
  exact ⟨pages, rfl⟩

theorem run_deskRoutes_ok {items : List (Route.Item (World State))}
    (h : ctx.run deskRoutes s = (.ok items, later)) : ∃ desk, items = deskItems desk := by
  obtain ⟨desk, middle, hnext⟩ := run_withBean_ok h
  cases hnext
  exact ⟨desk, rfl⟩

/-- The tables of the two registrations. -/
theorem tables_of_server {tables : List (Table (World State))}
    (h : Application.GiveAll ctx server.routers s tables later) :
    ∃ pages desk, tables = [⟨pageEntries pages⟩, ⟨deskEntries desk⟩] := by
  cases h with
  | cons hpages hrest =>
    cases hrest with
    | cons hdesk hnil =>
      cases hnil
      cases hpages with
      | declared hrun hbuild =>
        obtain ⟨pages, rfl⟩ := run_pageRoutes_ok hrun
        cases (table_of_pages pages).symm.trans hbuild
        cases hdesk with
        | declared hrun hbuild =>
          obtain ⟨desk, rfl⟩ := run_deskRoutes_ok hrun
          cases (table_of_desk desk).symm.trans hbuild
          exact ⟨pages, desk, rfl⟩

theorem chain_of_security {own : Option Manager} {users : Access.Users} {encoder : Encoder}
    {c : Chain} (h : security.Guards ctx s own users encoder c later) : c = chain := by
  cases h with
  | given users encoder hgiven hmanager hrules => cases hgiven
  | made hnone hstore husers hencoder hrules =>
    cases hstore
    cases husers
    cases hencoder
    cases hrules
    rfl

end Running

/-! ## What is realized -/

def cityBinding (folder : String) : Configuration.Binding (Beans folder) := ⟨Kind.own .city, City.shape, City.ofDatum⟩

def client (folder : String) : Definition folder :=
  .ready Kind.client (Http.Client.ofSettings ⟨none, [.text, .json], none⟩)

def root (folder : String) : Configuration.Block (Beans folder) (World State) :=
  ⟨"application", [.properties "city" ((cityBinding folder).definition "city"),
    .enable "data" [.bean (.ready (Kind.own .authors) ()), .bean (.ready (Kind.own .articles) ()),
      .listener seeding],
    .enable "web" [.bean pagesBean, .bean deskBean, .server server, .bean (client folder)]]⟩

def merged (folder : String) : Configuration.Merged (Beans folder) (World State) :=
  ⟨[(cityBinding folder).definition "city", .ready (Kind.own .authors) (), .ready (Kind.own .articles) (),
    pagesBean, deskBean, client folder], [seeding], ["city"], some ("web", server)⟩

theorem spec_root (folder : String) (file : Option String) :
    ∃ spec, Blog.spec folder file = .ok spec ∧ spec.root = root folder := by
  cases file <;> exact ⟨_, rfl, rfl⟩

theorem flatten_root (folder : String) (profiles : Profiles) :
    (root folder).flatten profiles = .ok (merged folder) := rfl

theorem kinds_of_beans (folder : String) : (Application.beansOf (merged folder)).map (·.kind) =
    [Kind.own .city, Kind.own .authors, Kind.own .articles, Kind.own .pages, Kind.own .desk,
      Kind.client, Kind.codecs, Kind.templates] := rfl

theorem follows_merged {files : Storage.Files} {plan : Application.Plan (ownCatalog folder) State}
    (hspec : Blog.spec folder file = .ok spec)
    (h : spec.plan profiles files environment = .ok plan) :
    Application.Spec.Follows (merged folder) plan := by
  obtain ⟨spec', hspec', hroot⟩ := spec_root folder file
  cases hspec'.symm.trans hspec
  refine Application.Spec.follows_of_plan ?_ h
  rw [hroot]
  exact flatten_root folder profiles

section Started

variable {s later : Application.State (ownCatalog folder) State}
  {r : Realized (ownCatalog folder) State}

theorem entries_of_started (hfollows : Application.Spec.Follows (merged folder) r.plan)
    (h : r.plan.Starts s r later) :
    ∃ pages desk, r.table.entries = pageEntries pages++deskEntries desk := by
  have hserver : r.plan.server = server := hfollows.server
  have hbeanless : r.plan.context.registry.ofKind Kind.routes = [] := by
    rw [Bean.Registry.ofKind, hfollows.beans, List.filter_eq_nil_iff]
    intro d hd hroutes
    have hkind : d.kind ∈ (Application.beansOf (merged folder)).map (·.kind) :=
      List.mem_map_of_mem hd
    rw [kinds_of_beans, of_decide_eq_true hroutes] at hkind
    simp at hkind
  obtain ⟨declared, beans, hserved⟩ := h.served
  obtain ⟨created, refreshed, heard, routed, -, -, hdeclared⟩ := hserved.registered
  have hstored := hserved.stored
  rw [hbeanless] at hstored
  cases hstored
  rw [hserver] at hdeclared
  obtain ⟨pages, desk, rfl⟩ := tables_of_server hdeclared
  exact ⟨pages, desk, hserved.entries⟩

theorem chain_of_started (hserver : r.plan.server = server) (h : r.plan.Starts s r later) :
    r.chain = some chain := by
  obtain ⟨plan, table, found⟩ := r
  cases h with
  | intro hcreated hrefreshed htable hchain hstarted =>
    rw [hserver] at hchain
    rcases Application.run_buildChain_ok hchain with ⟨hnone, -⟩ |
      ⟨settings, c, own, users, encoder, hsettings, rfl, hguards⟩
    · cases hnone
    · cases hsettings
      rw [chain_of_security hguards]

theorem realized_parts (hspec : Blog.spec folder file = .ok spec)
    (h : spec.realize profiles environment s = (.ok r, later)) :
    (∃ pages desk, r.table.entries = pageEntries pages++deskEntries desk) ∧
      r.chain = some chain ∧ r.plan.server = server := by
  obtain ⟨hplan, hstarts⟩ := Application.Spec.realize_ok h
  have hfollows := follows_merged hspec hplan
  exact ⟨entries_of_started hfollows hstarts, chain_of_started hfollows.server hstarts,
    hfollows.server⟩

end Started

theorem exists_service {r : Realized (ownCatalog folder) State} (h : r.plan.server = server) :
    ∃ service, r.service = .ok service := by
  have hcors : (server : Server.Settings (Beans folder) (World State)).cors =
      [.ofOrigin "example.com"] := rfl
  have hsound : (Http.Cors.Policy.ofRules [.ofOrigin "example.com"]).all (·.isSound) = true := by
    decide +kernel
  rw [← hcors] at hsound
  rw [Realized.service, Server.Service.assemble?, h, if_pos hsound]
  exact ⟨_, rfl⟩

/-! ## Who may change what -/

def articlesOf (world : World State) : Articles := world.own.articles

/-- The header names a user with the role of administrators, and has the password of that user. -/
def Administrates (headers : Headers) : Prop :=
  ∃ name password user, Access.basicCredentials headers = some (name, password) ∧
    accounts.find? name = some user ∧ user.name = name ∧
    user.password = Access.inBraces "noop"++password ∧ "ADMIN" ∈ user.roles

theorem accounts_find? (name : String) : accounts.find? name =
    if name = "admin" then some ⟨"admin", "\x7bnoop\x7dadmin", ["ADMIN"], true⟩
    else if name = "reader" then some ⟨"reader", "\x7bnoop\x7dreader", [], true⟩ else none := by
  have hstored : accounts.byName = [("admin", ⟨"admin", "\x7bnoop\x7dadmin", ["ADMIN"], true⟩),
      ("reader", ⟨"reader", "\x7bnoop\x7dreader", [], true⟩)] := rfl
  rw [Access.Users.find?, hstored, SortedTable.lookup_cons, SortedTable.lookup_cons]
  rfl

theorem account_of_find? {name : String} {user : Access.User} (h : accounts.find? name = some user) :
    user.name = name ∧ ∃ password, user.password = Access.inBraces "noop"++password := by
  rw [accounts_find?] at h
  split at h
  · rename_i hname
    cases h
    exact ⟨hname.symm, "admin", rfl⟩
  · split at h
    · rename_i hname
      cases h
      exact ⟨hname.symm, "reader", rfl⟩
    · cases h

theorem administrates_of_accepted {request : Request} (h : AcceptedAs chain "ADMIN" request) :
    Administrates request.headers := by
  obtain ⟨found, ⟨name, password, hcredentials, hfound⟩, hrole⟩ := h
  obtain ⟨user, ⟨hfind, haccepts, -⟩, rfl⟩ := Access.authenticate_ok_iff.mp hfound
  obtain ⟨hname, stored, hstored⟩ := account_of_find? hfind
  rw [hstored, Access.default_accepts_plain] at haccepts
  exact ⟨name, password, user, hcredentials, hfind, hname, haccepts ▸ hstored, hrole⟩

/-- All that is matched below `/api` is kept for administrators. -/
theorem keptFor_api {e : Entry (World State)} {segments : List Route.Segment}
    (h : e.pattern.segments = (Text.split '/' "/api").map Route.Segment.literal++segments) :
    KeptFor chain "ADMIN" e := by
  intro path params hm
  have hbelow : Below "/api" path := Route.Pattern.below_of_matchPath h hm
  have hopen : ∀ rule ∈ chain.rules.take 2, rule.1.matchPath path = none := by
    have hindex : Route.Pattern.matchPath ⟨[.literal "", .literal ""]⟩ path = none :=
      Route.Pattern.matchPath_eq_none "/" [] rfl (by decide) hbelow
    have harticle : Route.Pattern.matchPath ⟨[.literal "", .literal "article", .var "id"]⟩ path =
        none :=
      Route.Pattern.matchPath_eq_none "/article" [.var "id"] rfl (by decide) hbelow
    intro rule hrule
    rcases List.mem_cons.mp hrule with rfl | hrule
    · exact hindex
    · rw [List.mem_singleton.mp hrule]
      exact harticle
  have hguard : ∃ params, (⟨[.literal "", .literal "api", .catchAll "rest"]⟩ :
      Route.Pattern).matchPath path = some params :=
    Route.Pattern.matchPath_of_below rfl hbelow
  obtain ⟨params, hguard⟩ := hguard
  have hrules : chain.rules = chain.rules.take 2++chain.rules.drop 2 := rfl
  rw [Chain.accessFor, hrules, Chain.ruleFor_append hopen]
  have hlast : chain.rules.drop 2 =
      [(⟨[.literal "", .literal "api", .catchAll "rest"]⟩, .hasRole "ADMIN")] := rfl
  rw [hlast, Chain.ruleFor, hguard]
  rfl

theorem article_keeps (pages : Pages) (seen : Request) (world : World State) :
    articlesOf (pages.article seen world).2 = articlesOf world := by
  have hget : ∀ page : World State → StateM (World State) Http.Response,
      (get >>= page) world = page world world := fun _ => rfl
  rw [Pages.article, hget]
  dsimp only
  cases (articleId seen).bind world.own.articles.find? <;> rfl

theorem entries_keep_or_kept (pages : Pages) (desk : Desk) :
    ∀ e ∈ pageEntries pages++deskEntries desk, Keeps articlesOf e ∨ KeptFor chain "ADMIN" e := by
  have hindex : ∀ seen world, articlesOf (pages.index seen world).2 = articlesOf world :=
    fun _ _ => rfl
  intro e he
  rcases List.mem_append.mp he with he | he
  · left
    rcases List.mem_cons.mp he with rfl | he
    · exact hindex
    · rw [List.mem_singleton.mp he]
      exact article_keeps pages
  · right
    simp only [deskEntries, List.mem_cons, List.not_mem_nil, or_false] at he
    rcases he with rfl | rfl | rfl | rfl | rfl <;> exact keptFor_api rfl

def kept (app : Live (ownCatalog folder) State) : Articles := articlesOf app.state.world

/-- Once the blog is realized every request is answered, and none changes the articles but
those with the name and the password of an administrator, whatever requests came before. -/
theorem articles_changed_by_administrators {app ready : Live (ownCatalog folder) State}
    {r : Realized (ownCatalog folder) State} (hspec : Blog.spec folder file = .ok app.spec)
    (h : app.realize profiles environment = (.ok r, ready)) :
    (∀ before fresh request,
      (∃ response, ((ready.after before).request fresh request).1 = .ok (some response)) ∧
      (kept ((ready.after before).request fresh request).2 ≠ kept (ready.after before) →
        Administrates request.headers)) ∧
    ∀ sent : List (Http.Bytes × Request), (∀ x ∈ sent, ¬Administrates x.2.headers) →
      kept (ready.after sent) = kept ready := by
  obtain ⟨hready, hrealized⟩ := Live.realize_ok h
  obtain ⟨⟨pages, desk, hentries⟩, hchain, hserver⟩ := realized_parts hspec hrealized
  obtain ⟨service, hservice⟩ := exists_service hserver
  obtain ⟨htable, hguarded⟩ := Application.Realized.service_parts hservice
  have hkeeps : ∀ fresh request world, ¬Administrates request.headers →
      articlesOf (service.handle fresh request world).2 = articlesOf world := by
    intro fresh request world hn
    apply Server.handle_keeps (hguarded.trans hchain)
    · rw [htable, hentries]
      exact entries_keep_or_kept pages desk
    · exact mt administrates_of_accepted hn
  refine ⟨fun before fresh request => ?_, fun sent hsent =>
    Live.after_keeps hready hservice hkeeps hsent⟩
  have hbefore := Live.after_ready hready hservice before
  rw [Live.request_ready hbefore hservice]
  refine ⟨⟨_, rfl⟩, fun hchanged => ?_⟩
  by_contra hn
  exact hchanged (hkeeps fresh request (ready.after before).state.world hn)

def closed (spec : Application.Spec (ownCatalog "blog") State) : Live (ownCatalog "blog") State :=
  Live.start spec (World.start .empty State.start)

def opened : Option (Live (ownCatalog "blog") State) :=
  match Blog.spec "blog" none with
  | .error _ => none
  | .ok spec =>
    match (closed spec).realize .none .empty with
    | (.ok _, ready) => some ready
    | (.error _, _) => none

theorem realize_of_opened {ready : Live (ownCatalog "blog") State} (h : opened = some ready) :
    ∃ spec r, Blog.spec "blog" none = .ok spec ∧ (closed spec).realize .none .empty = (.ok r, ready) := by
  rw [opened] at h
  split at h
  · cases h
  · rename_i spec hspec
    split at h
    · rename_i r other hrealized
      cases h
      exact ⟨spec, r, hspec, hrealized⟩
    · cases h

def deletion (authorization : String) : Request :=
  Request.ofParts "DELETE" "/api/1" [("authorization", Http.bytesOf authorization)] []

def byAdmin : Request := deletion "Basic YWRtaW46YWRtaW4="

def byReader : Request := deletion "Basic cmVhZGVyOnJlYWRlcg=="

theorem not_administrates_reader : ¬Administrates byReader.headers := by
  rintro ⟨name, password, user, hcredentials, hfind, -, -, hrole⟩
  have hreader : Access.basicCredentials byReader.headers = some ("reader", "reader") := by
    decide +kernel
  cases hreader.symm.trans hcredentials
  have hfound : accounts.find? "reader" = some ⟨"reader", "\x7bnoop\x7dreader", [], true⟩ := rfl
  cases hfound.symm.trans hfind
  simp at hrole

theorem admin_deletes_reader_does_not : ∃ spec r ready,
    Blog.spec "blog" none = .ok spec ∧ (closed spec).realize .none .empty = (.ok r, ready) ∧
    kept (ready.request [] byAdmin).2 ≠ kept ready ∧ Administrates byAdmin.headers ∧
    kept (ready.after [([], byReader), ([], byReader)]) = kept ready := by
  have hdeleted : (opened.any fun ready => decide (kept (ready.request [] byAdmin).2 ≠ kept ready)) =
      true := by
    decide +kernel
  cases hopened : opened with
  | none =>
    rw [hopened] at hdeleted
    cases hdeleted
  | some ready =>
    rw [hopened, Option.any_some, decide_eq_true_eq] at hdeleted
    obtain ⟨spec, r, hspec, hrealized⟩ := realize_of_opened hopened
    obtain ⟨hstep, hrun⟩ := articles_changed_by_administrators hspec hrealized
    have hadmin : Administrates byAdmin.headers := (hstep [] [] byAdmin).2 hdeleted
    have hreader := hrun [([], byReader), ([], byReader)] (by simp [not_administrates_reader])
    exact ⟨spec, r, ready, hspec, hrealized, hdeleted, hadmin, hreader⟩

end WebApplication.Blog
