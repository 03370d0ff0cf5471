import ControlPlane.Proofs.Url.Server
import ControlPlane.Workspace
import Mathlib.Data.List.TakeWhile

/-!
# Hosts that name a server

A host with its scheme and a path are joined with one slash, and the text is read as a URL. If
anything but slashes follows the scheme, the slash before the path ends the authority, and the
server is the host's. If nothing does, no slash is left in front of the authority but those that are
skipped, and the path names the server.
-/

namespace ControlPlane.Workspace

open Url

/-- Whether a character can stand in the name of a server: tabs and line ends count for nothing. -/
def canName (c : Char) : Bool :=
  !isSlash true c && !isSkipped c

/-- Whether anything but slashes follows the scheme of a host. -/
def namesServer (host : String) : Bool :=
  ((host.toList.dropWhile (· ≠ ':')).drop 1).any canName

/-- The server of a host, whatever path it is joined with. -/
def serverOf (host : String) : Except UrlError Server :=
  (Url.parse (formatUrl host [""])).map Url.server

variable {host scheme : String} {rest : List Char}

theorem normalizeHost_eq (hhost : host ≠ "") :
    ∃ scheme, (scheme = "https" ∨ scheme = "http") ∧ ∃ rest,
      (normalizeHost host).toList = scheme.toList ++ ':' :: '/' :: '/' :: rest := by
  unfold normalizeHost
  split
  · next hscheme =>
      simp only [Bool.or_eq_true, String.isEmpty_iff, hhost, false_or, startsWith,
        List.isPrefixOf_iff_prefix] at hscheme
      rcases hscheme with ⟨rest, hrest⟩ | ⟨rest, hrest⟩
      · exact ⟨"https", .inl rfl, rest, hrest.symm⟩
      · exact ⟨"http", .inr rfl, rest, hrest.symm⟩
  · refine ⟨"https", .inl rfl, host.toList, ?_⟩
    rw [String.toList_append]
    rfl

/-- What a path leaves of itself after the slash before it. -/
def pathText (path : String) : List Char :=
  (Text.dropEndWhile isEdge (path.toList.dropWhile (· = '/'))).filter fun c => !isSkipped c

/-- What a host has after its scheme: surplus slashes at its end do not count. -/
def authorityText (rest : List Char) : List Char :=
  (Text.dropEndWhile (· = '/') ('/' :: '/' :: rest)).filter fun c => !isSkipped c

theorem significant_formatUrl (hscheme : scheme = "https" ∨ scheme = "http")
    (hhost : host.toList = scheme.toList ++ ':' :: '/' :: '/' :: rest) (path : String) :
    significant (formatUrl host [path]).toList =
      scheme.toList ++ ':' :: (authorityText rest ++ '/' :: pathText path) := by
  have hformat : (formatUrl host [path]).toList =
      (scheme.toList ++ ':' :: Text.dropEndWhile (· = '/') ('/' :: '/' :: rest)) ++
        '/' :: path.toList.dropWhile (· = '/') := by
    rw [formatUrl, String.toList_ofList, hhost, dropEndWhile_append_stop (by decide)]
    simp
  have hstart (text : List Char) : (scheme.toList ++ text).dropWhile isEdge =
      scheme.toList ++ text := by
    rcases hscheme with rfl | rfl <;> rfl
  have hkept : scheme.toList.filter (fun c => !isSkipped c) = scheme.toList := by
    rcases hscheme with rfl | rfl <;> rfl
  rw [significant, hformat, List.append_assoc, hstart, ← List.append_assoc,
    dropEndWhile_append_stop (by decide), List.filter_append, List.filter_append, hkept,
    List.filter_cons_of_pos (by rfl), List.filter_cons_of_pos (by rfl)]
  simp [authorityText, pathText]

theorem parse_formatUrl (hscheme : scheme = "https" ∨ scheme = "http")
    (hhost : host.toList = scheme.toList ++ ':' :: '/' :: '/' :: rest) (path : String) :
    Url.parse (formatUrl host [path]) =
      parseAuthority scheme true
        ((authorityText rest ++ '/' :: pathText path).dropWhile (isSlash true)) := by
  have htake (after : List Char) : takeScheme (scheme.toList ++ ':' :: after) =
      some (scheme, after) := by
    rcases hscheme with rfl | rfl <;> rfl
  have hspecial : scheme ≠ "file" ∧ isSpecialScheme scheme = true := by
    rcases hscheme with rfl | rfl <;> decide
  rw [Url.parse, significant_formatUrl hscheme hhost, htake]
  simp only [if_neg hspecial.1, if_pos hspecial.2]

theorem namesServer_iff (hscheme : scheme = "https" ∨ scheme = "http")
    (hhost : host.toList = scheme.toList ++ ':' :: '/' :: '/' :: rest) :
    namesServer host = true ↔ (authorityText rest).dropWhile (isSlash true) ≠ [] := by
  have hnames : namesServer host = ('/' :: '/' :: rest).any canName := by
    rw [namesServer, hhost]
    rcases hscheme with rfl | rfl <;> rfl
  have hmem (c : Char) (hc : isSlash true c = false) :
      c ∈ authorityText rest ↔ c ∈ '/' :: '/' :: rest ∧ isSkipped c = false := by
    have hne : decide (c = '/') = false := by
      simp only [isSlash, Bool.or_eq_false_iff] at hc
      exact hc.1
    rw [authorityText, List.mem_filter, mem_dropEndWhile_iff hne]
    simp
  simp only [hnames, List.any_eq_true, ne_eq, List.dropWhile_eq_nil_iff, not_forall,
    Bool.not_eq_true, exists_prop]
  constructor
  · rintro ⟨c, hc, hcan⟩
    simp only [canName, Bool.and_eq_true, Bool.not_eq_true'] at hcan
    exact ⟨c, (hmem c hcan.1).mpr ⟨hc, hcan.2⟩, hcan.1⟩
  · rintro ⟨c, hc, hslash⟩
    obtain ⟨hrest, hskipped⟩ := (hmem c hslash).mp hc
    exact ⟨c, hrest, by simp [canName, hslash, hskipped]⟩

/-- Paths do not choose the server of a host that names one. -/
theorem server_formatUrl (hhost : host ≠ "") (hnames : namesServer (normalizeHost host) = true)
    (path : String) :
    (Url.parse (formatUrl (normalizeHost host) [path])).map Url.server =
      serverOf (normalizeHost host) := by
  obtain ⟨scheme, hscheme, rest, hrest⟩ := normalizeHost_eq hhost
  have hauthority := (namesServer_iff hscheme hrest).mp hnames
  rw [serverOf, parse_formatUrl hscheme hrest, parse_formatUrl hscheme hrest,
    List.dropWhile_append, List.dropWhile_append, if_neg (by simpa using hauthority),
    if_neg (by simpa using hauthority), server_parseAuthority]
  rfl

/-- A path in the place of a server. -/
theorem server_formatUrl_of_not_namesServer (hhost : host ≠ "")
    (hnames : namesServer (normalizeHost host) = false) :
    ∃ scheme, ∀ path, Url.parse (formatUrl (normalizeHost host) [path]) =
      parseAuthority scheme true ((pathText path).dropWhile (isSlash true)) := by
  obtain ⟨scheme, hscheme, rest, hrest⟩ := normalizeHost_eq hhost
  have hauthority : (authorityText rest).dropWhile (isSlash true) = [] := by
    by_contra hsome
    rw [(namesServer_iff hscheme hrest).mpr hsome] at hnames
    cases hnames
  refine ⟨scheme, fun path => ?_⟩
  rw [parse_formatUrl hscheme hrest, List.dropWhile_append, if_pos (by simpa using hauthority)]
  rfl

/-- A path that is written like an address of version 6 is a server of its own. -/
theorem exists_server_ne (hhost : host ≠ "")
    (hnames : namesServer (normalizeHost host) = false) :
    ∃ first second, Url.parse (formatUrl (normalizeHost host) ["[::1]"]) = .ok first ∧
      Url.parse (formatUrl (normalizeHost host) ["[::2]"]) = .ok second ∧
        first.server ≠ second.server := by
  obtain ⟨scheme, hparse⟩ := server_formatUrl_of_not_namesServer hhost hnames
  have haddress (n : Nat) (path : String)
      (hpath : parseAuthority scheme true ((pathText path).dropWhile (isSlash true)) =
        .ok { scheme := scheme, host := some (.ipv6 [0, 0, 0, 0, 0, 0, 0, n]), path := "/" }) :
      Url.parse (formatUrl (normalizeHost host) [path]) =
        .ok { scheme := scheme, host := some (.ipv6 [0, 0, 0, 0, 0, 0, 0, n]), path := "/" } :=
    (hparse path).trans hpath
  refine ⟨_, _, haddress 1 "[::1]" rfl, haddress 2 "[::2]" rfl, ?_⟩
  simp [server]

/-- Any two paths on a host that are read as URLs at all have one server. -/
def OneServer (host : String) : Prop :=
  ∀ (p q : String) (first second : Url), Url.parse (formatUrl host [p]) = .ok first →
    Url.parse (formatUrl host [q]) = .ok second → first.server = second.server

theorem oneServer_iff (hhost : host ≠ "") :
    OneServer (normalizeHost host) ↔ namesServer (normalizeHost host) = true := by
  constructor
  · intro hone
    by_contra hnames
    rw [Bool.not_eq_true] at hnames
    obtain ⟨first, second, hfirst, hsecond, hne⟩ := exists_server_ne hhost hnames
    exact hne (hone _ _ _ _ hfirst hsecond)
  · intro hnames p q first second hfirst hsecond
    have hp := server_formatUrl hhost hnames p
    have hq := server_formatUrl hhost hnames q
    rw [hfirst] at hp
    rw [hsecond] at hq
    exact Except.ok.inj (hp.trans hq.symm)

end ControlPlane.Workspace
