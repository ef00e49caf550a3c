import SyntaxPlayground.Proofs.Json.ReadBack
import SyntaxPlayground.Proofs.Server.Refusal
import SyntaxPlayground.Proofs.Text.Decimal

/-!
# Which sources are turned away for their size

A source has to keep to the limit of the server, and the body that carries it to the limit and 4096 bytes. But
a body is longer than its source: it has an envelope, and characters that are escaped. `sources_turned_away`
says for which sources within the limit the body is too long, and that there are none only under a small
limit. `newlines_turned_away` is such a source; and where the limit of the body wraps around, every source is
one.
-/

namespace SyntaxPlayground

/-! ## Limits that can be configured -/

theorem Text.le_of_readInt? {t : Text} {n : Int} (h : readInt? t = some n) : n ≤ maxInt64 := by
  cases t with
  | nil => cases h
  | cons b u =>
    simp only [readInt?, Option.ite_none_left_eq_some, Option.ite_none_right_eq_some,
      Option.some.injEq] at h
    obtain ⟨-, ⟨-, hmax⟩, rfl⟩ := h
    exact hmax

namespace Environment

variable {env : Environment} {read : Text → Option Int} {name : Text} {fallback : Int}

theorem positiveOr_pos (h : 0 < fallback) : 0 < env.positiveOr read name fallback := by
  simp only [positiveOr]
  split_ifs
  · exact h
  · omega

/-- What is read from the environment is not above a bound that readable values and the usual value keep. -/
theorem positiveOr_le {bound : Int} (hread : ∀ t n, read t = some n → n ≤ bound)
    (h : fallback ≤ bound) : env.positiveOr read name fallback ≤ bound := by
  have hor : env.readOr read name fallback ≤ bound := by
    unfold readOr
    split_ifs
    · exact h
    · cases hvalue : read (env name) with
      | none => exact h
      | some n => exact hread _ n hvalue
  simp only [positiveOr]
  split_ifs
  · exact h
  · exact hor

end Environment

/-- A limit of the source can be configured exactly if it is a positive number of 64 bits. -/
theorem Configuration.exists_load_iff {max : Int} :
    (∃ env, (load env).maxSourceBytes = max) ↔ 0 < max ∧ max ≤ maxInt64 := by
  constructor
  · rintro ⟨env, rfl⟩
    exact ⟨Environment.positiveOr_pos (by decide),
      Environment.positiveOr_le (fun t n => Text.le_of_readInt?) (by decide)⟩
  · rintro ⟨hpos, hmax⟩
    have hnat : (max.toNat : Int) = max := Int.toNat_of_nonneg (by omega)
    have hread : Text.readInt? (Text.ofNat max.toNat) = some max := by
      rw [Text.readInt?_ofNat (by omega), hnat]
    refine ⟨fun name => if name = utf8 "MAX_SOURCE_BYTES" then Text.ofNat max.toNat else [], ?_⟩
    simp only [load, Environment.positiveOr, Environment.readOr, if_true, Text.ofNat_ne_nil, if_false,
      hread, Option.getD_some, Int.not_le.mpr hpos]

/-! ## Bodies that are too long -/

namespace JsonValue

theorem ofText?_of_run {t : Text} {v : JsonValue} (h : JsonReader.run JsonReader.start t = .value v []) :
    ofText? t = some v := by
  simp only [ofText?, h, List.all_nil, if_true]

/-- A body that is completed by its last byte is not read if it is too long. -/
theorem ofBody_of_run {t : Text} {v : JsonValue} {limit : Nat}
    (h : JsonReader.run JsonReader.start t = .value v []) (hlimit : limit < t.length) :
    ofBody limit t = .error .tooLong := by
  have hrest : t.drop limit ≠ [] := by
    rw [Ne, List.drop_eq_nil_iff]
    omega
  obtain ⟨s, hs⟩ : ∃ s, JsonReader.run JsonReader.start (t.take limit) = .unfinished s := by
    apply JsonReader.exists_run_eq_unfinished (v := v) _ hrest
    rw [List.take_append_drop]
    exact h
  rw [← JsonReader.run_start_dropWhile] at hs
  simp only [ofBody, hlimit, if_true]
  generalize (t.take limit).dropWhile JsonReader.isSpace = seen at hs ⊢
  split
  · rfl
  · -- no value begins with a comma
    cases hs
  · cases hs
  · simp only [hs]

end JsonValue

/-! ## The body that carries a source -/

/-- The body that carries a source: an object with this one text. -/
def sourceBody (source : Text) : Text :=
  (JsonValue.object [(utf8 "source", .string source)]).write

/-- A source that a server with the given limit promises to take: it is not empty, is made up of characters,
and keeps to the limit. -/
structure IsSourceWithin (max : Int) (source : Text) : Prop where
  ne_nil : source ≠ []
  isUtf8 : source.isUtf8 = true
  length_le : (source.length : Int) ≤ max

variable {source : Text}

theorem run_sourceBody (h : source.isUtf8 = true) :
    JsonReader.run JsonReader.start (sourceBody source) =
      .value (.object [(utf8 "source", .string source)]) [] :=
  JsonReader.run_write_textObject (by decide) h

theorem standsFor_sourceBody (h : source.isUtf8 = true) :
    (sourceBody source).StandsFor [(utf8 "source", source)] := by
  refine ⟨_, [(utf8 "source", .string source)], JsonValue.ofText?_of_run (run_sourceBody h), rfl, ?_⟩
  intro name hname
  simp only [fieldNames, List.mem_cons, List.not_mem_nil, or_false] at hname
  rcases hname with rfl | rfl | rfl | rfl | rfl <;> rfl

theorem length_sourceBody (source : Text) :
    (sourceBody source).length = (JsonValue.writeString source).length + 11 := by
  have hkey : (JsonValue.writeString (utf8 "source")).length = 8 := by decide
  simp only [sourceBody, JsonValue.write, JsonValue.writeFields, List.length_append,
    List.length_singleton, hkey]
  omega

/-- How long the body of a source is. -/
theorem length_sourceBody_bounds (h : source.isUtf8 = true) :
    source.length + 13 ≤ (sourceBody source).length ∧
      (sourceBody source).length ≤ 6 * source.length + 13 := by
  have hlength := JsonValue.length_writeString h
  rw [length_sourceBody]
  omega

/-! ## The limit of a body -/

/-- A body is too long if it has more bytes than the limit leaves room for, and also, whatever its length, if
that bound wraps around. -/
theorem bodyLimit_lt_iff {max : Int} (hpos : 0 ≤ max) (hmax : max ≤ maxInt64) {n : Nat} (hn : 0 < n) :
    bodyLimit max < n ↔ max + envelopeBytes < n ∨ maxInt64 < max + envelopeBytes := by
  by_cases hwrap : maxInt64 < max + envelopeBytes
  · rw [bodyLimit_eq_zero hmax hwrap]
    exact ⟨fun _ => Or.inr hwrap, fun _ => hn⟩
  · have hmin : minInt64 ≤ 0 := by decide
    have henvelope : 0 ≤ envelopeBytes := by decide
    rw [bodyLimit, wrapInt64_of_le (by omega) (by omega)]
    omega

namespace Server

open Session (asking)

variable {s : Server} {r : HttpRequest} {id : Text} {session : Session}
  {op : Operation}

/-- The request is answered as one that is too long. -/
def TurnsAway (s : Server) (around : Surroundings) (r : HttpRequest) : Prop :=
  ∃ response, (s.handle around r).1 = .response response ∧ response.status = 413

/-- Where a request goes does not depend on the source that it carries. -/
theorem Routes.carrying (h : s.Routes r id (.run op)) (source : Text) :
    s.Routes { r with body := sourceBody source } id (asking op source).route := by
  rw [Command.route_asking]
  exact h

theorem readCommand_of_tooLong {max : Int} (hutf8 : source.isUtf8 = true)
    (hlong : bodyLimit max < (sourceBody source).length) :
    readCommand max (.run op) (sourceBody source) = .error (.unreadable .tooLong) := by
  have hread : readBody max [utf8 "source"] (sourceBody source) = .error (.unreadable .tooLong) := by
    simp only [readBody, JsonValue.ofBody_of_run (run_sourceBody hutf8) hlong]
  simp only [readCommand, hread]
  rfl

/-- A source whose body is too long is turned away, and nothing changes. -/
theorem handle_of_tooLong (around : Surroundings) (hget : s.store.get id = .ok session)
    (hroutes : s.Routes r id (.run op)) (hutf8 : source.isUtf8 = true)
    (hlong : bodyLimit s.configuration.maxSourceBytes < (sourceBody source).length) :
    s.handle around { r with body := sourceBody source } =
      (.response (Wire.error 413 (utf8 "request body too large")), s) := by
  rw [handle_route hget (hroutes.carrying source), Command.route_asking]
  simp only [readCommand_of_tooLong hutf8 hlong]
  rfl

/-- A source whose body is not too long gets to the session. -/
theorem handle_of_fits (around : Surroundings) (hget : s.store.get id = .ok session)
    (hroutes : s.Routes r id (.run op)) (hsource : IsSourceWithin s.configuration.maxSourceBytes source)
    (hfits : (sourceBody source).length ≤ bodyLimit s.configuration.maxSourceBytes) :
    s.handle around { r with body := sourceBody source } =
      (.response (s.answerCommand around id (asking op source) 200).1,
        (s.answerCommand around id (asking op source) 200).2) := by
  have hbody : (sourceBody source).StandsFor (asking op source).fields := by
    rw [Command.fields_asking]
    exact standsFor_sourceBody hsource.isUtf8
  have hwithin := (Command.isWithin_asking op source).mpr hsource.length_le
  have hne : (asking op source).source? ≠ some [] := by
    rw [Command.source?_asking]
    exact fun h => hsource.ne_nil (Option.some.inj h)
  exact handle_of_isWithin hget (hroutes.carrying source) hbody hfits hwithin hne around

theorem turnsAway_iff (around : Surroundings) (hget : s.store.get id = .ok session)
    (hroutes : s.Routes r id (.run op)) (hsource : IsSourceWithin s.configuration.maxSourceBytes source) :
    s.TurnsAway around { r with body := sourceBody source } ↔
      bodyLimit s.configuration.maxSourceBytes < (sourceBody source).length := by
  constructor
  · rintro ⟨response, hresponse, hstatus⟩
    apply Nat.lt_of_not_le
    intro hfits
    -- an answer of the session has another status
    rw [handle_of_fits around hget hroutes hsource hfits] at hresponse
    cases hresponse
    exact (s.status_answerCommand around id (asking op source)).2 hstatus
  · intro hlong
    rw [TurnsAway, handle_of_tooLong around hget hroutes hsource.isUtf8 hlong]
    exact ⟨_, rfl, rfl⟩

/-! ## Which sources fit -/

/-- A source of one character of the basic alphabet, as long as the limit allows. -/
theorem isSourceWithin_replicate {b : UInt8} (hb : b < 0x80) {max : Int} (hmax : 0 < max) :
    IsSourceWithin max (List.replicate max.toNat b) := by
  refine ⟨?_, ?_, ?_⟩
  · rw [Ne, List.replicate_eq_nil_iff]
    omega
  · apply Text.isUtf8_of_basic
    intro c hc
    rw [List.eq_of_mem_replicate hc]
    exact hb
  · rw [List.length_replicate]
    omega

theorem length_sourceBody_replicate {b : UInt8} (hb : b < 0x80) (n : Nat) :
    (sourceBody (List.replicate n b)).length = n * (JsonValue.writePiece ⟨[b], b.toNat⟩).length + 13 := by
  rw [length_sourceBody, JsonValue.length_writeString_replicate hb]

/-- Under a small limit the body of every source fits, whatever is escaped; under any other the body of
control characters does not. -/
theorem forall_fits_iff {max : Int} (hmax : max ≤ maxInt64) :
    (∀ source, IsSourceWithin max source → (sourceBody source).length ≤ bodyLimit max) ↔ max ≤ 816 := by
  have hbound : envelopeBytes = 4096 := rfl
  have hlarge : maxInt64 = 9223372036854775807 := rfl
  constructor
  · intro hfits
    apply Int.not_lt.mp
    intro hlt
    -- each control character is written in six bytes
    have hwithin : IsSourceWithin max (List.replicate max.toNat 1) :=
      isSourceWithin_replicate (by decide) (by omega)
    have hsix : (JsonValue.writePiece ⟨[1], UInt8.toNat 1⟩).length = 6 := by decide
    have hlength := length_sourceBody_replicate (b := 1) (by decide) max.toNat
    rw [hsix] at hlength
    have hlong : bodyLimit max < (sourceBody (List.replicate max.toNat 1)).length := by
      rw [bodyLimit_lt_iff (by omega) hmax (by omega)]
      omega
    have hfits' := hfits _ hwithin
    omega
  · intro hsmall source hsource
    have hlength := (length_sourceBody_bounds hsource.isUtf8).2
    have hwithin := hsource.length_le
    apply length_le_bodyLimit
    · omega
    · omega

/-- A source within the limit is turned away for its size exactly if its body has more than 4096 bytes beyond
the limit, or that bound wraps around. Then the response says so and nothing changes; otherwise the session
gets the source. The body has at least 13 bytes more than the source, and at most 13 more than six times as
many, so that no source within the limit is turned away exactly if the limit is at most 816 bytes. -/
theorem sources_turned_away (s : Server) (around : Surroundings) {id : Text} {session : Session}
    (hget : s.store.get id = .ok session) (hmax : s.configuration.maxSourceBytes ≤ maxInt64)
    {op : Operation} {r : HttpRequest} (hroutes : s.Routes r id (.run op)) :
    (∀ source, IsSourceWithin s.configuration.maxSourceBytes source →
      (s.TurnsAway around { r with body := sourceBody source } ↔
        s.configuration.maxSourceBytes + envelopeBytes < (sourceBody source).length ∨
          maxInt64 < s.configuration.maxSourceBytes + envelopeBytes) ∧
      (s.TurnsAway around { r with body := sourceBody source } →
        s.handle around { r with body := sourceBody source } =
          (.response (Wire.error 413 (utf8 "request body too large")), s)) ∧
      (¬ s.TurnsAway around { r with body := sourceBody source } →
        s.handle around { r with body := sourceBody source } =
          (.response (s.answerCommand around id (asking op source) 200).1,
            (s.answerCommand around id (asking op source) 200).2)) ∧
      source.length + 13 ≤ (sourceBody source).length ∧
      (sourceBody source).length ≤ 6 * source.length + 13) ∧
    ((∀ source, IsSourceWithin s.configuration.maxSourceBytes source →
        ¬ s.TurnsAway around { r with body := sourceBody source }) ↔
      s.configuration.maxSourceBytes ≤ 816) := by
  constructor
  · intro source hsource
    have hlength := length_sourceBody_bounds hsource.isUtf8
    have hpos : 0 ≤ s.configuration.maxSourceBytes := le_trans (Int.natCast_nonneg _) hsource.length_le
    have haway := turnsAway_iff around hget hroutes hsource
    refine ⟨?_, ?_, ?_, hlength⟩
    · rw [haway]
      exact bodyLimit_lt_iff hpos hmax (by omega)
    · intro hturned
      exact handle_of_tooLong around hget hroutes hsource.isUtf8 (haway.mp hturned)
    · intro hturned
      rw [haway, Nat.not_lt] at hturned
      exact handle_of_fits around hget hroutes hsource hturned
  · rw [← forall_fits_iff hmax]
    refine forall_congr' fun source => forall_congr' fun hsource => ?_
    rw [turnsAway_iff around hget hroutes hsource, Nat.not_lt]

/-- The request to tokenize a source. -/
def tokenizeRequest (source : Text) : HttpRequest :=
  asked (.tokenize source) (sourceBody source)

/-- Where 4096 bytes are the limit, a short source with characters to escape gets to the session, but some
source is turned away. -/
theorem sources_turned_away_shortSource :
    (withOneSession 4096).store.get (utf8 "S1") = .ok (Session.new (utf8 "S1") .rune 0) ∧
    (withOneSession 4096).configuration.maxSourceBytes ≤ maxInt64 ∧
    (withOneSession 4096).Routes (tokenizeRequest []) (utf8 "S1") (.run .tokenize) ∧
    IsSourceWithin 4096 (utf8 "if a < b\n") ∧
    ¬ (withOneSession 4096).TurnsAway calm (tokenizeRequest (utf8 "if a < b\n")) ∧
    ¬ ∀ source, IsSourceWithin 4096 source →
      ¬ (withOneSession 4096).TurnsAway calm (tokenizeRequest source) := by
  have hget : (withOneSession 4096).store.get (utf8 "S1") = .ok (Session.new (utf8 "S1") .rune 0) := rfl
  have hmax : (withOneSession 4096).configuration.maxSourceBytes ≤ maxInt64 := by decide
  have hroutes : (withOneSession 4096).Routes (tokenizeRequest []) (utf8 "S1") (.run .tokenize) :=
    routes_asked 4096 (.tokenize []) _
  have hsource : IsSourceWithin 4096 (utf8 "if a < b\n") := ⟨by decide, by decide, by decide⟩
  obtain ⟨hsources, hall⟩ := sources_turned_away (withOneSession 4096) calm hget hmax hroutes
  refine ⟨hget, hmax, hroutes, hsource, ?_, ?_⟩
  · have hnot : ¬ ((4096 : Int) + envelopeBytes < (sourceBody (utf8 "if a < b\n")).length ∨
        maxInt64 < 4096 + envelopeBytes) := by decide
    exact fun hturned => hnot ((hsources _ hsource).1.mp hturned)
  · intro hnone
    have hsmall : (4096 : Int) ≤ 816 := hall.mp hnone
    exact absurd hsmall (by decide)

/-- A source of newlines. -/
def newlines (n : Nat) : Text :=
  List.replicate n 10

/-- Where 4096 bytes are the limit, 4096 newlines are turned away for their size. Where the limit is the
largest number there is, one letter is. Both limits can be configured. -/
theorem newlines_turned_away :
    (∃ env, (Configuration.load env).maxSourceBytes = 4096) ∧
    IsSourceWithin 4096 (newlines 4096) ∧
    (withOneSession 4096).store.get (utf8 "S1") = .ok (Session.new (utf8 "S1") .rune 0) ∧
    (withOneSession 4096).Routes (tokenizeRequest (newlines 4096)) (utf8 "S1") (.run .tokenize) ∧
    (withOneSession 4096).handle calm (tokenizeRequest (newlines 4096)) =
      (.response (Wire.error 413 (utf8 "request body too large")), withOneSession 4096) ∧
    (∃ env, (Configuration.load env).maxSourceBytes = maxInt64) ∧
    IsSourceWithin maxInt64 (utf8 "a") ∧
    (withOneSession maxInt64).store.get (utf8 "S1") = .ok (Session.new (utf8 "S1") .rune 0) ∧
    (withOneSession maxInt64).Routes (tokenizeRequest (utf8 "a")) (utf8 "S1") (.run .tokenize) ∧
    (withOneSession maxInt64).handle calm (tokenizeRequest (utf8 "a")) =
      (.response (Wire.error 413 (utf8 "request body too large")), withOneSession maxInt64) := by
  have hnewlines : IsSourceWithin 4096 (newlines 4096) :=
    isSourceWithin_replicate (by decide) (by decide)
  have hletter : IsSourceWithin maxInt64 (utf8 "a") := ⟨by decide, by decide, by decide⟩
  have hroutes : (withOneSession 4096).Routes (tokenizeRequest (newlines 4096)) (utf8 "S1") (.run .tokenize) :=
    routes_asked 4096 (.tokenize (newlines 4096)) _
  have hroutes' : (withOneSession maxInt64).Routes (tokenizeRequest (utf8 "a")) (utf8 "S1") (.run .tokenize) :=
    routes_asked maxInt64 (.tokenize (utf8 "a")) _
  have htwo : (JsonValue.writePiece ⟨[10], UInt8.toNat 10⟩).length = 2 := by decide
  have hlong : bodyLimit 4096 < (sourceBody (newlines 4096)).length := by
    rw [newlines, length_sourceBody_replicate (by decide), htwo]
    decide
  have hlong' : bodyLimit maxInt64 < (sourceBody (utf8 "a")).length := by decide
  have hget : ∀ max, (withOneSession max).store.get (utf8 "S1") = .ok (Session.new (utf8 "S1") .rune 0) :=
    fun _ => rfl
  have haway := handle_of_tooLong calm (hget 4096) hroutes hnewlines.isUtf8 hlong
  have haway' := handle_of_tooLong calm (hget maxInt64) hroutes' hletter.isUtf8 hlong'
  have hload : ∃ env, (Configuration.load env).maxSourceBytes = 4096 :=
    Configuration.exists_load_iff.mpr ⟨by decide, by decide⟩
  have hload' : ∃ env, (Configuration.load env).maxSourceBytes = maxInt64 :=
    Configuration.exists_load_iff.mpr ⟨by decide, by decide⟩
  exact ⟨hload, hnewlines, hget 4096, hroutes, haway, hload', hletter, hget maxInt64, hroutes', haway'⟩

end Server

end SyntaxPlayground
