/-
AlertRelay/Proofs/ListServer.lean

Which server an address leads to.

An address is accepted as a host and a port (`readAddress_eq_ok_iff`), and then put into a URL, of
which the rules are others: a port has no sign there, and a host may be at its end where the first
of the two saw nothing special.  The two agree on the addresses that stand in a URL for themselves
(`Address.StandsIn`).  With any other one that is accepted, somebody else is asked or nobody.

The number of the database gets through always (`ListServer.database?_toString`).
-/
import AlertRelay.ListServer
import AlertRelay.Proofs.Number.Decimal
import AlertRelay.Proofs.Text.Cut
import AlertRelay.Proofs.Url.Foreign

namespace AlertRelay

/-! ### Addresses -/

/-- **An address** is a host without colons, a colon and a port. -/
theorem readAddress_eq_ok_iff {text : String} {a : Address} :
    readAddress text = .ok a ↔ ∃ port : String, text = a.host ++ ":" ++ port ∧ a.host ≠ "" ∧
      ':' ∉ a.host.toList ∧ Decimal.unsigned? greatestPort port.toList = some a.port := by
  have hread : readAddress text = .ok a ↔ Address.parse? text = some a := by
    unfold readAddress
    cases Address.parse? text <;> simp
  rw [hread, Address.parse?]
  simp only [Option.bind_eq_bind, Option.bind_eq_some_iff, Prod.exists, splitOnce?_eq_some_iff]
  constructor
  · rintro ⟨host, port, ⟨htext, hcolon⟩, h⟩
    split at h
    · cases h
    · rename_i hne
      obtain ⟨n, hn, h⟩ := Option.bind_eq_some_iff.1 h
      cases h
      refine ⟨String.ofList port, ?_, by simpa using hne, by simpa using hcolon, by simpa using hn⟩
      rw [← String.toList_inj, htext]
      simp
  · rintro ⟨port, rfl, hne, hcolon, hport⟩
    refine ⟨a.host.toList, port.toList, ⟨by simp, hcolon⟩, ?_⟩
    simp [hne, hport]

/-! ### Ports -/

namespace Url

theorem readPort_of_digits {cs : List Char} {n : Nat} (h : Decimal.value? cs = some n)
    (hn : n ≤ greatestPort) : readPort none (':' :: cs) = .ok (some (UInt16.ofNat n), []) := by
  obtain ⟨hne, hdigits, -⟩ := Decimal.value?_eq_some_iff.1 h
  have htake : cs.takeWhile Char.isDigit = cs := takeWhile_eq_self hdigits
  have hport : portOf? cs = some (some (UInt16.ofNat n)) := by
    have hsmall : n < 65536 := Nat.lt_succ_of_le hn
    obtain ⟨c, cs, rfl⟩ := List.exists_cons_of_ne_nil hne
    simp only [portOf?, h, if_pos hsmall]
  simp [readPort, htake, hport]

/-- A URL has no port with a sign. -/
theorem readPort_of_plus (cs : List Char) :
    readPort none (':' :: '+' :: cs) = .error .invalidPort :=
  rfl

/-! ### Paths -/

/-- A name of digits, and perhaps a minus, is the whole path. -/
theorem readPath_of_number {s : String} (h : ∀ c ∈ s.toList, c ∈ "-0123456789".toList) :
    readPath .foreign ('/' :: s.toList) = [s] := by
  have hplain : ∀ c ∈ "-0123456789".toList, isSlash .foreign c = false ∧
      Percent.inPath c = false ∧ c.toLower = c := by
    simp [isSlash, Percent.inPath, Percent.inFragment, Percent.inAny]
  have hpieces : pieces (isSlash .foreign) s.toList = [s.toList] :=
    pieces_eq_self fun c hc => (hplain c (h c hc)).1
  have hencode : Percent.encode Percent.inPath s.toList = s.toList :=
    Percent.encode_eq_self fun c hc => (hplain c (h c hc)).2.1
  have hlower : s.toLower = s := by
    show s.map Char.toLower = s
    rw [← String.toList_inj, String.toList_map]
    exact (List.map_congr_left fun c hc => (hplain c (h c hc)).2.2).trans (List.map_id _)
  have hdots : ∀ name ∈ [".", "%2e", "..", "%2e.", ".%2e", "%2e%2e"], s ≠ name := by
    have hmarked : ∀ name ∈ [".", "%2e", "..", "%2e.", ".%2e", "%2e%2e"],
        ∃ c ∈ name.toList, c ∉ "-0123456789".toList := by
      simp
    rintro name hname rfl
    obtain ⟨c, hc, hnot⟩ := hmarked s hname
    exact hnot (h c hc)
  simp only [List.forall_mem_cons] at hdots
  have hhere : isHere s = false := by simp [isHere, hlower, hdots]
  have habove : isAbove s = false := by simp [isAbove, hlower, hdots]
  simp [readPath, readNames, isSlash, hpieces, hencode, follow, habove, hhere]

end Url

/-! ### Databases -/

namespace ListServer

/-- A text in which nothing is a slash has none around it. -/
theorem withoutSlashes_cons {cs : List Char} (h : ∀ c ∈ cs, c ≠ '/') :
    withoutSlashes ('/' :: cs) = cs := by
  have hfront : ('/' :: cs).dropWhile (· = '/') = cs := by
    rw [List.dropWhile_cons_of_pos (by decide), List.dropWhile_eq_self_iff]
    intro hpos
    simpa using h _ (List.getElem_mem hpos)
  have hback : cs.reverse.dropWhile (· = '/') = cs.reverse := by
    rw [List.dropWhile_eq_self_iff]
    intro hpos
    simpa using h _ (List.mem_reverse.1 (List.getElem_mem hpos))
  rw [withoutSlashes, hfront, hback, List.reverse_reverse]

/-- **The number of a database** is found in the path that it makes. -/
theorem database?_toString (db : Int64) : database? ("/" ++ toString db.toInt) = some db := by
  have hplain : ∀ c ∈ "-0123456789".toList, c ≠ '/' := by simp
  have hread := Decimal.signed?_toString db.minValue_le_toInt db.toInt_le
  have hpath : withoutSlashes ("/" ++ toString db.toInt).toList = (toString db.toInt).toList := by
    rw [String.toList_append]
    exact withoutSlashes_cons fun c hc => hplain c (Decimal.mem_of_mem_toString hc)
  rw [database?, hpath]
  split
  · rename_i hnone
    rw [hnone] at hread
    cases hread
  · rw [hread, Option.map_some, Int64.ofInt_toInt]

end ListServer

/-! ### Servers -/

namespace RedisSettings

variable {host port : String} {db : Int64}

/-- The URL of a plain host is read up to its port. -/
theorem parse_url (hne : host ≠ "") (hhost : ∀ c ∈ host.toList, Host.isPlain c = true)
    (hport : ∀ c ∈ port.toList, c ∈ "+0123456789".toList) :
    Url.parse (url ⟨host ++ ":" ++ port, db⟩) =
      (Url.readPort none (':' :: port.toList)).bind fun (p, rest) =>
        .ok { scheme := "redis", authority := some { host := .name host, port := p },
              path := .names <|
                Url.readPath .foreign (rest ++ '/' :: (toString db.toInt).toList) } := by
  have hurl : url ⟨host ++ ":" ++ port, db⟩ =
      "redis://" ++ String.ofList (host.toList ++ ':' :: port.toList) ++ "/" ++
        String.ofList (toString db.toInt).toList := by
    rw [← String.toList_inj]
    simp [url]
  have hsigned : ∀ c ∈ "+0123456789".toList, ' ' < c ∧ Url.endsAuthority .foreign c = false := by
    simp [Url.endsAuthority, Url.isSlash]
  have hdb : ∀ c ∈ "-0123456789".toList, ' ' < c ∧ c ≠ '?' ∧ c ≠ '#' := by simp
  have hown : ∀ c ∈ host.toList ++ ':' :: port.toList,
      ' ' < c ∧ Url.endsAuthority .foreign c = false := by
    intro c hc
    rw [List.mem_append, List.mem_cons] at hc
    rcases hc with hc | rfl | hc
    · exact Url.within_of_isPlain (hhost c hc)
    · decide
    · exact hsigned c (hport c hc)
  have hpath : ∀ c ∈ (toString db.toInt).toList, ' ' < c ∧ c ≠ '?' ∧ c ≠ '#' :=
    fun c hc => hdb c (Decimal.mem_of_mem_toString hc)
  have hat : '@' ∉ port.toList := fun hmem => absurd (hport '@' hmem) (by decide)
  rw [hurl, Url.parse_of_plain hown hpath,
    Url.readAuthority_of_plain (by simpa using hne) hhost hat, String.ofList_toList]
  cases Url.readPort none (':' :: port.toList) <;> rfl

/-- A plain host with a port in digits is the server itself. -/
theorem ofUrl_of_digits (hne : host ≠ "") (hhost : ∀ c ∈ host.toList, Host.isPlain c = true)
    {n : Nat} (hport : Decimal.value? port.toList = some n) (hn : n ≤ greatestPort) (db : Int64) :
    ListServer.ofUrl (url ⟨host ++ ":" ++ port, db⟩) = .ok ⟨host, UInt16.ofNat n, db⟩ := by
  obtain ⟨-, hdigits, -⟩ := Decimal.value?_eq_some_iff.1 hport
  have hmem : ∀ c ∈ port.toList, c ∈ "+0123456789".toList :=
    fun c hc => List.mem_cons_of_mem '+' (Decimal.mem_of_isDigit (hdigits c hc))
  have hpath : (UrlPath.names [toString db.toInt]).text = "/" ++ toString db.toInt := by
    simp [UrlPath.text, String.join]
  rw [ListServer.ofUrl, parse_url hne hhost hmem, Url.readPort_of_digits hport hn]
  simp only [Except.bind, List.nil_append,
    Url.readPath_of_number fun c hc => Decimal.mem_of_mem_toString hc, Url.host?, hpath,
    ListServer.database?_toString, Url.port?]
  simp [hne, Network.hostName]

/-- **A plus in front of the port** is nothing that a URL has. -/
theorem ofUrl_of_plus (hne : host ≠ "") (hhost : ∀ c ∈ host.toList, Host.isPlain c = true)
    {rest : List Char} (hport : port.toList = '+' :: rest) {n : Nat}
    (hrest : Decimal.value? rest = some n) (db : Int64) :
    ListServer.ofUrl (url ⟨host ++ ":" ++ port, db⟩) =
      .error (ListServer.badSettings "Redis URL did not parse") := by
  obtain ⟨-, hdigits, -⟩ := Decimal.value?_eq_some_iff.1 hrest
  have hmem : ∀ c ∈ port.toList, c ∈ "+0123456789".toList := by
    rw [hport, List.forall_mem_cons]
    exact ⟨by decide, fun c hc => List.mem_cons_of_mem '+' (Decimal.mem_of_isDigit (hdigits c hc))⟩
  rw [ListServer.ofUrl, parse_url hne hhost hmem, hport, Url.readPort_of_plus]
  rfl

/-- A server without colons in its host is named in plain characters. -/
theorem plain_of_ofUrl {r : RedisSettings} {server : ListServer}
    (h : ListServer.ofUrl r.url = .ok server) (hcolon : ':' ∉ server.host.toList) :
    ∀ c ∈ server.host.toList, Host.isPlain c = true := by
  unfold ListServer.ofUrl at h
  split at h
  · cases h
  · rename_i u hu
    split at h
    · cases h
    · cases h
    · rename_i shown database hshown _
      cases h
      have hrest : r.url = "redis://" ++ (r.address ++ "/" ++ toString r.database.toInt) := by
        simp only [url, String.append_assoc]
      rw [hrest] at hu
      obtain ⟨own, after, a, left, hauthority, ha⟩ := Url.exists_authority_of_parse hu
      obtain ⟨name, hname⟩ := Url.parseForeign_of_readAuthority hauthority
      have hsame : shown = a.host := by
        simp only [Url.host?, ha] at hshown
        split at hshown
        · cases hshown
        · exact (Option.some.inj hshown).symm
      subst hsame
      rcases Host.plain_or_colon hname with hplain | hmem
      · exact hplain
      · exact absurd hmem hcolon

end RedisSettings

/-! ### Addresses and servers -/

namespace Address

/-- The server that an address and the number of a database say. -/
def server (a : Address) (db : Int64) : ListServer :=
  ⟨a.host, UInt16.ofNat a.port, db⟩

/-- The text of an address says the same within a URL: every character of the host stands for
itself there, and the port has no sign. -/
def StandsIn (a : Address) (text : String) : Prop :=
  (∀ c ∈ a.host.toList, Host.isPlain c = true) ∧
    ∃ digits : String, text = a.host ++ ":" ++ digits ∧ ∀ c ∈ digits.toList, c.isDigit = true

end Address

namespace RedisSettings

variable {text : String} {a : Address}

theorem ofUrl_eq_server_iff (h : readAddress text = .ok a) (db : Int64) :
    ListServer.ofUrl (url ⟨text, db⟩) = .ok (a.server db) ↔ a.StandsIn text := by
  obtain ⟨port, rfl, hne, hcolon, hport⟩ := readAddress_eq_ok_iff.1 h
  obtain ⟨hn, hvalue | ⟨rest, hsigned, hrest⟩⟩ := Decimal.unsigned?_eq_some_iff.1 hport
  · obtain ⟨-, hdigits, -⟩ := Decimal.value?_eq_some_iff.1 hvalue
    constructor
    · intro hserver
      exact ⟨plain_of_ofUrl hserver hcolon, port, rfl, hdigits⟩
    · rintro ⟨hplain, -⟩
      exact ofUrl_of_digits hne hplain hvalue hn db
  · constructor
    · intro hserver
      have herror := ofUrl_of_plus hne (plain_of_ofUrl hserver hcolon) hsigned hrest db
      rw [hserver] at herror
      cases herror
    · rintro ⟨-, digits, htext, hdigits⟩
      have hsame : port = digits := by
        rw [← String.toList_inj] at htext ⊢
        simpa using htext
      subst hsame
      rw [hsigned] at hdigits
      exact absurd (hdigits '+' List.mem_cons_self) (by decide)

/-- Whom one reaches shows which server is asked for. -/
theorem connect_eq_lists_iff {r : RedisSettings} {server : ListServer} :
    (∀ n : Network, r.connect n = n.lists server) ↔ ListServer.ofUrl r.url = .ok server := by
  constructor
  · intro h
    -- a network in which nobody else has lists
    have hconnect := h { Network.isolated with
      lists := fun s => if s = server then .ok {} else .error (.connection "") }
    simp only [if_true] at hconnect
    obtain ⟨s, hs, hlists⟩ := bind_eq_ok.1 hconnect
    dsimp only at hlists
    split at hlists
    · rename_i heq
      rw [hs, heq]
    · cases hlists
  · intro h n
    rw [connect, h]
    rfl

/-- Where an address that is accepted leads. -/
structure Leads (text : String) (a : Address) (db : Int64) : Prop where
  /-- The URL names the server that the address says if the text stands for itself in it. -/
  named_iff : ListServer.ofUrl (url ⟨text, db⟩) = .ok (a.server db) ↔ a.StandsIn text
  /-- In whatever network, nobody else is asked for lists then. -/
  connects_iff : (∀ n, connect ⟨text, db⟩ n = n.lists (a.server db)) ↔ a.StandsIn text
  /-- With a sign in front of the port, nobody is asked: there is no URL with such a port. -/
  signed : (∀ c ∈ a.host.toList, Host.isPlain c = true) → ¬ a.StandsIn text →
    ∀ n, connect ⟨text, db⟩ n = .error (ListServer.badSettings "Redis URL did not parse")

/-- **The address that is accepted** is the one that is connected to if it stands for itself in a
URL, and in no other case. -/
theorem leads_to_server (h : readAddress text = .ok a) (db : Int64) : Leads text a db where
  named_iff := ofUrl_eq_server_iff h db
  connects_iff := by rw [connect_eq_lists_iff, ofUrl_eq_server_iff h db]
  signed hplain hother n := by
    obtain ⟨port, rfl, hne, -, hport⟩ := readAddress_eq_ok_iff.1 h
    obtain ⟨-, hvalue | ⟨rest, hsigned, hrest⟩⟩ := Decimal.unsigned?_eq_some_iff.1 hport
    · exact absurd ⟨hplain, port, rfl, (Decimal.value?_eq_some_iff.1 hvalue).2.1⟩ hother
    · rw [connect, ofUrl_of_plus hne hplain hsigned hrest db]
      rfl

theorem leads_to_server_localhost :
    readAddress "localhost:6380" = .ok ⟨"localhost", 6380⟩ ∧
      ∀ n, connect ⟨"localhost:6380", -3⟩ n = n.lists ⟨"localhost", 6380, -3⟩ := by
  have hread : readAddress "localhost:6380" = .ok ⟨"localhost", 6380⟩ := by decide
  have hplain : ∀ c ∈ "localhost".toList, Host.isPlain c = true := by
    simp [Host.isPlain, Host.isForbidden, Percent.inAny]
  have hdigits : ∀ c ∈ "6380".toList, c.isDigit = true := by simp [Char.isDigit]
  exact ⟨hread, (leads_to_server hread (-3)).connects_iff.2 ⟨hplain, "6380", by decide, hdigits⟩⟩

/-- **Two addresses** that are accepted and not connected to: one is no URL, and the other one leads
to somebody else. -/
theorem accepted_elsewhere :
    readAddress "127.0.0.1:+1" = .ok ⟨"127.0.0.1", 1⟩ ∧
      (∀ n, connect ⟨"127.0.0.1:+1", 0⟩ n =
        .error (ListServer.badSettings "Redis URL did not parse")) ∧
      readAddress "ops@127.0.0.1:1" = .ok ⟨"ops@127.0.0.1", 1⟩ ∧
      ∀ n, connect ⟨"ops@127.0.0.1:1", 0⟩ n = n.lists ⟨"127.0.0.1", 1, 0⟩ := by
  refine ⟨by decide, fun n => ?_, by decide, fun n => ?_⟩
  · have hurl : ListServer.ofUrl (url ⟨"127.0.0.1:+1", 0⟩) =
        .error (ListServer.badSettings "Redis URL did not parse") := by
      decide +kernel
    rw [connect, hurl]
    rfl
  · exact connect_eq_lists_iff.2 (by decide +kernel) n

end RedisSettings

end AlertRelay
