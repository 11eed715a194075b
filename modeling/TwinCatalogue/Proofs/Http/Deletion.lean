import TwinCatalogue.Http.Calls
import TwinCatalogue.Proofs.Url.Form
import TwinCatalogue.Proofs.Url.Segments

/-! The address to which a deletion goes. The identifier is kept whatever it is, but the path is
put into the address as it stands: where an address would read it otherwise, another resource is
addressed. -/

namespace TwinCatalogue.Http

/-- What stands behind the name of the kind: the segments of the path, without the slashes around
it. -/
def Beneath (path : Option String) (segs : List String) : Prop :=
  match path with
  | none => segs = []
  | some path => Url.Names segs (Text.trimSlashes path).toList

/-- The address is that of an entity of a catalogue, with the identifier as all of its query. -/
structure Addresses (site : Url) (kind : EntityKind) (id : String) (path : Option String)
    (url : Url) : Prop where
  below : ∃ segs, url.path = site.path.dropLast ++ kind.name :: segs ∧ Beneath path segs
  pairs : url.pairs = [("id", id)]

/-- An address reads the path as it is written. -/
def PlainPath (path : Option String) : Prop :=
  ∀ text ∈ path, Url.Literal (Text.trimSlashes text).toList

theorem word_name (kind : EntityKind) : Url.Word kind.name := by
  have hplain : ∀ kind : EntityKind, kind.name.toList.all Url.inPath = true := by
    rintro (_ | _ | _) <;> decide
  have hwhole : ∀ kind : EntityKind, kind.name.toList.all (fun c => !Url.isSlash c) = true := by
    rintro (_ | _ | _) <;> decide
  refine ⟨List.all_eq_true.mp (hplain kind), fun c hc => ?_, ?_⟩
  · simpa using List.all_eq_true.mp (hwhole kind) c hc
  · cases kind <;> decide

/-- What the address of a deletion says behind that of the catalogue. -/
def deletionTail (kind : EntityKind) (path : Option String) : List Char :=
  match path with
  | none => kind.name.toList
  | some path => kind.name.toList ++ '/' :: (Text.trimSlashes path).toList

theorem address_delete (s : Store) (kind : EntityKind) (id : String) (path : Option String)
    (token : Token) : (s.draft (.delete kind id path) token).address =
      s.baseUrl ++ "/" ++ String.ofList (deletionTail kind path) := by
  cases path with
  | none =>
    rw [deletionTail, String.ofList_toList]
    rfl
  | some path =>
    rw [← String.toList_inj]
    simp [Store.draft, Store.collection, deletionTail]

/-- Pairs that are added to an address are the last ones that it has. -/
theorem exists_pairs_withPairs (u : Url) (pair : String × String) :
    ∃ earlier, (u.withPairs [pair]).pairs = earlier ++ [pair] ∧
      (u.query = none → earlier = []) := by
  have hadded : Form.decode (Form.encode [pair]) = [pair] := Form.decode_encode [pair]
  rw [Url.withPairs]
  · cases hquery : u.query with
    | none =>
      refine ⟨[], ?_, fun _ => rfl⟩
      simpa [Url.pairs] using hadded
    | some query =>
      by_cases hempty : query = ""
      · refine ⟨[], ?_, fun hnone => nomatch hnone⟩
        simpa [Url.pairs, hempty] using hadded
      · refine ⟨Form.decode query.toList, ?_, fun hnone => nomatch hnone⟩
        simpa [Url.pairs, hempty, Form.decode_append_cons] using hadded
  · exact List.cons_ne_nil _ _

theorem exists_below_iff (site : Url) (kind : EntityKind) (path : Option String) :
    (∃ segs, (site.below (Url.trailing (deletionTail kind path))).path =
        site.path.dropLast ++ kind.name :: segs ∧ Beneath path segs) ↔ PlainPath path := by
  cases path with
  | none =>
    rw [deletionTail, Url.below_path_word site (word_name kind)]
    constructor
    · rintro - text hnone
      exact nomatch hnone
    · rintro -
      exact ⟨[], rfl, rfl⟩
  | some path =>
    have hsettled : ∀ segs, site.path.dropLast ++ kind.name :: segs =
        (kind.name :: site.path.dropLast.reverse).reverse ++ segs := by simp
    rw [deletionTail, Url.below_path_append site (word_name kind)]
    constructor
    · rintro ⟨segs, hpath, hnames⟩ text htext
      obtain rfl := Option.mem_some_iff.mp htext
      exact Url.literal_of_resolveDots_eq (hpath.trans (hsettled segs)) hnames
    · intro hplain
      have hliteral := hplain path rfl
      exact ⟨_, (hliteral.resolveDots_eq _).trans (hsettled _).symm, hliteral.names_rawSegments⟩

theorem unmarked_deletionTail {kind : EntityKind} {path : Option String} (h : PlainPath path) :
    Url.Unmarked (deletionTail kind path) := by
  cases path with
  | none => exact (word_name kind).unmarked
  | some path => exact (word_name kind).unmarked_append (h path rfl).toUnmarked

section Sending

variable {d : Draft} {parsed : Url} {m : Message}

theorem Draft.message_ok (h : Url.parse d.address = .ok parsed) (hm : d.message = .ok m) :
    m.method = d.method ∧ m.url = parsed.withoutCredentials.withPairs d.pairs := by
  rw [Draft.message, h] at hm
  dsimp only at hm
  split at hm
  · exact nomatch hm
  · split at hm
    · exact nomatch hm
    · obtain rfl := Except.ok.inj hm
      exact ⟨rfl, rfl⟩

theorem Draft.exists_message (h : Url.parse d.address = .ok parsed)
    (hheaders : d.headers.all (fun h => isHeaderValue h.2) = true)
    (hsendable : (parsed.withoutCredentials.withPairs d.pairs).sendable = true) :
    ∃ m, d.message = .ok m := by
  rw [Draft.message, h]
  dsimp only
  rw [hheaders, hsendable]
  exact ⟨_, rfl⟩

end Sending

/-- The request removes something from the catalogue at the address of the site, and it has the
identifier as its last pair. -/
structure Removes (site : Url) (id : String) (m : Message) : Prop where
  method : m.method = .delete
  scheme : m.url.scheme = site.scheme
  host : m.url.host = site.host
  port : m.url.port = site.port
  pairs : ∃ earlier, m.url.pairs = earlier ++ [("id", id)]

variable {e : StoreEndpoint} {site : Url}

theorem withPairs_parts (u : Url) (pairs : List (String × String)) :
    (u.withPairs pairs).scheme = u.scheme ∧ (u.withPairs pairs).host = u.host ∧
      (u.withPairs pairs).port = u.port ∧ (u.withPairs pairs).path = u.path := by
  unfold Url.withPairs
  split
  · exact ⟨rfl, rfl, rfl, rfl⟩
  · split
    · exact ⟨rfl, rfl, rfl, rfl⟩
    · exact ⟨rfl, rfl, rfl, rfl⟩

/-- The contract of deletions. Below the address of a catalogue, any number of slashes at its end
and any prefix included, a deletion is sent whenever its token can be sent and the host can be
called; it addresses the entity of the kind and the path, and nothing but its identifier in the
query, if and only if the path is one that addresses read as it is written. -/
theorem delete_addresses_iff (hsite : Url.parse (Text.trimEndSlashes e.baseUrl ++ "/") = .ok site)
    (hquery : site.query = none) (hfragment : site.fragment = none) (kind : EntityKind)
    (id : String) (path : Option String) (token : Token) :
    let d := (Store.ofEndpoint e).draft (.delete kind id path) token
    (site.sendable = true → isHeaderValue token.secret = true → ∃ m, d.message = .ok m) ∧
      ∀ m, d.message = .ok m →
        Removes site id m ∧ (Addresses site kind id path m.url ↔ PlainPath path) := by
  intro d
  let tail := Url.trailing (deletionTail kind path)
  let url := (site.below tail).withoutCredentials
  have hparse : Url.parse d.address = .ok (site.below tail) := by
    rw [address_delete]
    exact Url.parse_append hsite hquery hfragment (deletionTail kind path)
  obtain ⟨hscheme, hhost, hport, hpath⟩ := withPairs_parts url [("id", id)]
  obtain ⟨earlier, hpairs, hnone⟩ := exists_pairs_withPairs url ("id", id)
  refine ⟨fun hsendable htoken => ?_, fun m hm => ?_⟩
  · refine Draft.exists_message hparse (by simpa [d, Store.draft, tokenHeader] using htoken) ?_
    show Url.sendable (url.withPairs [("id", id)]) = true
    rw [Url.sendable, hhost]
    exact hsendable
  · obtain ⟨hmethod, hurl⟩ := Draft.message_ok hparse hm
    have hurl : m.url = url.withPairs [("id", id)] := hurl
    refine ⟨⟨hmethod, ?_, ?_, ?_, ?_⟩, ?_⟩
    · rw [hurl, hscheme]
      rfl
    · rw [hurl, hhost]
      rfl
    · rw [hurl, hport]
      rfl
    · rw [hurl]
      exact ⟨earlier, hpairs⟩
    · have hbelow := exists_below_iff site kind path
      rw [hurl]
      constructor
      · rintro ⟨⟨segs, hsegs, hbeneath⟩, -⟩
        exact hbelow.mp ⟨segs, hpath.symm.trans hsegs, hbeneath⟩
      · intro hplain
        obtain ⟨segs, hsegs, hbeneath⟩ := hbelow.mpr hplain
        have hempty := hnone
          (congrArg Url.query (Url.below_of_unmarked site (unmarked_deletionTail hplain)))
        exact ⟨⟨segs, hpath.trans hsegs, hbeneath⟩, by rw [hpairs, hempty, List.nil_append]⟩

/-- A path with slashes around it, a blank, a lone percent sign and letters beyond ASCII, below a
base with a port, a prefix and two slashes at its end. -/
theorem delete_addresses_plain :
    let e : StoreEndpoint := ⟨"http://Central.test:8080/v1//", 5000, 30000⟩
    let site : Url :=
      ⟨.http, "", none, .name "central.test", some 8080, ["v1", ""], none, none⟩
    let path := some "/köln/level 5%/"
    Url.parse (Text.trimEndSlashes e.baseUrl ++ "/") = .ok site ∧
      site.query = none ∧ site.fragment = none ∧ site.sendable = true ∧
      isHeaderValue "secret" = true ∧ PlainPath path ∧
      ∃ m, ((Store.ofEndpoint e).draft (.delete .inst "a&b=c" path) ⟨"secret"⟩).message = .ok m ∧
        Removes site "a&b=c" m ∧ Addresses site .inst "a&b=c" path m.url := by
  intro e site path
  have hsite : Url.parse (Text.trimEndSlashes e.baseUrl ++ "/") = .ok site := by decide +kernel
  have hsendable : site.sendable = true := by decide +kernel
  have htoken : isHeaderValue "secret" = true := by decide
  have hplain : PlainPath path := by
    intro text htext
    obtain rfl := Option.mem_some_iff.mp htext
    decide +kernel
  obtain ⟨hsent, haddressed⟩ :=
    delete_addresses_iff hsite rfl rfl .inst "a&b=c" path ⟨"secret"⟩
  obtain ⟨m, hm⟩ := hsent hsendable htoken
  obtain ⟨hremoves, hiff⟩ := haddressed m hm
  exact ⟨hsite, rfl, rfl, hsendable, htoken, hplain, m, hm, hremoves, hiff.mpr hplain⟩

/-- A question mark in the path ends it and adds a pair to the query, and two dots leave the
collection. -/
theorem delete_addresses_elsewhere :
    let e : StoreEndpoint := ⟨"http://local.test/v1/", 5000, 30000⟩
    let site : Url := ⟨.http, "", none, .name "local.test", none, ["v1", ""], none, none⟩
    let url := fun path : String =>
      ((Store.ofEndpoint e).draft (.delete .inst "pune" (some path)) ⟨"secret"⟩).message.map (·.url)
    Url.parse (Text.trimEndSlashes e.baseUrl ++ "/") = .ok site ∧
      (∃ asked, url "sc?x=1" = .ok asked ∧ asked.path = ["v1", "instance", "sc"] ∧
        asked.pairs = [("x", "1"), ("id", "pune")] ∧
        ¬ Addresses site .inst "pune" (some "sc?x=1") asked) ∧
      ∃ asked, url ".." = .ok asked ∧ asked.path = ["v1", ""] ∧
        ¬ Addresses site .inst "pune" (some "..") asked := by
  intro e site url
  let asked : Url :=
    ⟨.http, "", none, .name "local.test", none, ["v1", "instance", "sc"], some "x=1&id=pune", none⟩
  let left : Url := ⟨.http, "", none, .name "local.test", none, ["v1", ""], some "id=pune", none⟩
  have hasked : url "sc?x=1" = .ok asked := by decide +kernel
  have hleft : url ".." = .ok left := by decide +kernel
  have hpairs : asked.pairs = [("x", "1"), ("id", "pune")] := by decide +kernel
  refine ⟨by decide +kernel, ⟨asked, hasked, rfl, hpairs, ?_⟩, left, hleft, rfl, ?_⟩
  · rintro ⟨-, hown⟩
    rw [hpairs] at hown
    exact absurd hown (by decide)
  · rintro ⟨⟨segs, hpath, -⟩, -⟩
    have hpath : ["v1", ""] = ["v1"] ++ "instance" :: segs := hpath
    simp at hpath

end TwinCatalogue.Http
