import WebApplication.Http.Client
import WebApplication.Proofs.Text.Split
import WebApplication.Proofs.Text.Trim

/-!
# Where a client sends a path

A path that starts with a slash is joined to the base URL, unless the mark behind a scheme stands
somewhere in it, be it in its query. With the mark it is taken for a whole URL, which it is not,
as no scheme starts with a slash: no request is made of it at all.
-/

set_option autoImplicit false

namespace WebApplication.Http

namespace Url

theorem clean_rooted (rest : String) : ∃ cs, clean ("/"++rest) = '/'::cs := by
  have htext : ("/"++rest).toList = '/'::rest.toList := by
    rw [String.toList_append]
    rfl
  rw [clean, htext, List.dropWhile_cons_of_neg (by decide), List.reverse_cons,
    List.dropWhile_append]
  -- The slash stays, whether or not anything before it is left of the reversed text.
  split
  · exact ⟨[], rfl⟩
  · rw [List.reverse_append]
    exact ⟨_, List.filter_cons_of_pos rfl⟩

theorem normalize?_rooted (rest : String) : normalize? ("/"++rest) = none := by
  obtain ⟨cs, hclean⟩ := clean_rooted rest
  have hscheme : scheme? ('/'::cs) = none := by
    rw [scheme?, Text.cut, if_neg (by decide)]
    cases Text.cut ':' cs with
    | none => rfl
    | some parts => rfl
  rw [normalize?, hclean, hscheme]
  rfl

end Url

def Marked (path : String) : Prop := ∃ before after, path = before++"://"++after

structure Fronts (base front : String) : Prop where
  slashes : ∃ n, base = front++String.ofList (List.replicate n '/')
  last : front.toList.getLast? ≠ some '/'

namespace Client

variable {settings : ClientSettings} {base : String}

theorem fronts_dropEnd (base : String) : Fronts base (Text.dropEnd '/' base) :=
  ⟨Text.exists_dropEnd '/' base, Text.getLast?_dropEnd_ne '/' base⟩

theorem url_of_marked (client : Client) {path : String} (h : Marked path) :
    client.url path = path := by
  rw [url]
  cases client.baseUrl with
  | none => rfl
  | some base => exact if_pos (Text.holds_iff.mpr h)

theorem url_of_not_marked (hbase : settings.baseUrl = some base) {path : String}
    (h : ¬Marked path) : (ofSettings settings).url path = Text.dropEnd '/' base++path := by
  have hfront : (ofSettings settings).baseUrl = some (Text.dropEnd '/' base) := by
    rw [ofSettings, hbase, Option.map_some]
  rw [url, hfront]
  exact if_neg (mt Text.holds_iff.mp h)

/-- A path behind a slash is joined to the base URL without the slashes at its end, and requests
go to the joined address, if the mark of a scheme is nowhere in it. Else it is left as it is, and
there is no request, as it leads to no host by itself. -/
theorem path_joined_unless_marked (hbase : settings.baseUrl = some base) (rest : String) :
    let client := ofSettings settings
    let front := Text.dropEnd '/' base
    let path := "/"++rest
    Fronts base front ∧
    (¬Marked path → client.url path = front++path ∧ ∀ verb, client.request? verb path =
      (Url.normalize? (front++path)).map fun address => (verb.method, address)) ∧
    (Marked path → client.url path = path ∧ ∀ verb, client.request? verb path = none) := by
  intro client front path
  refine ⟨fronts_dropEnd base, fun h => ?_, fun h => ?_⟩
  · have hurl : client.url path = front++path := url_of_not_marked hbase h
    exact ⟨hurl, fun verb => by rw [request?, hurl]⟩
  · have hurl : client.url path = path := url_of_marked client h
    have hnone : Url.normalize? path = none := Url.normalize?_rooted rest
    exact ⟨hurl, fun verb => by rw [request?, hurl, hnone, Option.map_none]⟩

def settingsOfShop : ClientSettings := ⟨some "http://[::1]:8080//", [.json], none⟩

theorem article_joined_redirect_refused :
    (ofSettings settingsOfShop).url "/api/article?id=1" = "http://[::1]:8080/api/article?id=1" ∧
    (ofSettings settingsOfShop).request? .delete "/api/article?id=1" =
      some ("DELETE", "http://[::1]:8080/api/article?id=1") ∧
    (ofSettings settingsOfShop).request? .get "/login?next=https://example.com" = none := by
  have hbase : settingsOfShop.baseUrl = some "http://[::1]:8080//" := rfl
  have hplain : ¬Marked ("/"++"api/article?id=1") := by
    rw [Marked, ← Text.holds_iff]
    decide
  have hmarked : Marked ("/"++"login?next=https://example.com") :=
    ⟨"/login?next=https", "example.com", by decide⟩
  obtain ⟨-, hjoined, -⟩ := path_joined_unless_marked hbase "api/article?id=1"
  obtain ⟨-, -, hleft⟩ := path_joined_unless_marked hbase "login?next=https://example.com"
  refine ⟨(hjoined hplain).1, ?_, (hleft hmarked).2 .get⟩
  have haddress : Url.normalize? (Text.dropEnd '/' "http://[::1]:8080//"++
      ("/"++"api/article?id=1")) = some "http://[::1]:8080/api/article?id=1" := by
    decide +kernel
  have hrequest := (hjoined hplain).2 .delete
  rw [haddress] at hrequest
  exact hrequest

/-- A path with a URL in its query is not joined. -/
theorem not_every_path_joined : ¬∀ (settings : ClientSettings) (base rest : String),
    settings.baseUrl = some base →
    (ofSettings settings).url ("/"++rest) = Text.dropEnd '/' base++("/"++rest) := by
  intro h
  have hjoined := h ⟨some "http://localhost:8080/", [], none⟩ _ "login?next=https://example.com" rfl
  revert hjoined
  decide

end Client

end WebApplication.Http
