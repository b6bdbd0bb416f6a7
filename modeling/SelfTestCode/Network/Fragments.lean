import SelfTestCode.Network.Input

/-!
# Requests arrive in pieces

A client prints its requests one after the other and the kernel hands them to the server in pieces
of any size.  `serve` reads such pieces until the bytes are used up or the reads are, and
`Host.run` executes commands one after the other, until one of them closes the connection.
`pipelined_requests_execute_in_order` says that the first is the second: however the bytes are cut,
the server executes the commands that were sent, each once, in order and with the arguments it was
sent with, and reports no protocol error.

The invariant is `Represents`: the query buffer together with the bytes that have not arrived is the
rest of the printed requests behind what the parser has taken.  The other half of the argument is a
bound (`Fits`): the parser gives up on a line that does not end within 64 KB, and whether
such a line is on its way must not depend on the pieces.  A request of a client is never refused,
because between two reads an incomplete line is short, an incomplete argument is shorter than 32 KB
or is read no further than to its end.

For bytes that are no requests there is `processInput_rule`: the loop over the buffer preserves what
commands, resets and protocol errors do, and no assertion of the parser fails.
-/

namespace SelfTestCode.Network

/-! ## What clients print -/

/-- An argument. -/
def bulkText (a : List Char) : List Char :=
  '$' :: (Resp.line (Numeral.intChars a.length) ++ Resp.line a)

/-- Arguments one after the other. -/
def bulks (args : List (List Char)) : List Char := (args.map bulkText).flatten

/-- A request as a client sends it. -/
def requestText (argv : List (List Char)) : List Char := (Resp.request argv).encode

/-- Requests one after the other. -/
def requests (cmds : List (List (List Char))) : List Char := (cmds.map requestText).flatten

@[simp] lemma bulks_cons (a : List Char) (args : List (List Char)) :
    bulks (a :: args) = bulkText a ++ bulks args := rfl

@[simp] lemma requests_nil : requests [] = [] := rfl

@[simp] lemma requests_cons (argv : List (List Char)) (cmds : List (List (List Char))) :
    requests (argv :: cmds) = requestText argv ++ requests cmds := rfl

/-- The number of arguments and then the arguments. -/
lemma requestText_eq (argv : List (List Char)) :
    requestText argv = '*' :: (Resp.line (Numeral.intChars argv.length) ++ bulks argv) := by
  have hbulks : ∀ args : List (List Char), Resp.Value.encodeList (args.map .bulk) = bulks args := by
    intro args
    induction args with
    | nil => rfl
    | cons a args ih => rw [List.map_cons, Resp.Value.encodeList, ih, bulks_cons]; rfl
  rw [requestText, Resp.request, Resp.Value.encode, hbulks, List.length_map]

/-- A command within the limits of the server. -/
structure Sendable (argv : List (List Char)) : Prop where
  ne_nil : argv ≠ []
  length_le : argv.length ≤ maxMultibulkLen
  bulk_le : ∀ a ∈ argv, a.length ≤ maxBulkLen

/-! ## Lines with a number -/

section Lines

variable {ch : Char} {w rest text : List Char}

lemma strchr_append (hw : ch ∉ w) (hnul : '\x00' ∉ w) :
    strchr ch (w ++ ch :: rest) = some w.length := by
  induction w with
  | nil => simp [strchr]
  | cons a w ih =>
    rw [List.mem_cons, not_or] at hw hnul
    rw [List.cons_append, strchr, if_neg (Ne.symm hw.1), if_neg (Ne.symm hnul.1), ih hw.2 hnul.2]
    rfl

lemma strchr_eq_none (hw : '\r' ∉ w) : strchr '\r' w = none := by
  induction w with
  | nil => rfl
  | cons a w ih =>
    rw [List.mem_cons, not_or] at hw
    rw [strchr, if_neg (Ne.symm hw.1), ih hw.2]
    simp

/-- A text that is a prefix of a line and what follows: it has the whole line, or the search for its
end finds nothing that is complete. -/
lemma strchr_prefix (hw : '\r' ∉ w) (hnul : '\x00' ∉ w) (h : text <+: Resp.line w ++ rest) :
    (∃ rest', text = Resp.line w ++ rest' ∧ rest' <+: rest ∧ strchr '\r' text = some w.length) ∨
      (text.length < w.length + 2 ∧
        (strchr '\r' text = none ∨ strchr '\r' text = some w.length)) := by
  have hline : (Resp.line w).length = w.length + 2 := by simp [Resp.line, Resp.crlf]
  by_cases hlen : w.length + 2 ≤ text.length
  · left
    obtain ⟨rest', rfl⟩ : Resp.line w <+: text :=
      List.prefix_of_prefix_length_le (List.prefix_append _ _) h (by omega)
    refine ⟨rest', rfl, (List.prefix_append_right_inj _).mp h, ?_⟩
    have htext : Resp.line w ++ rest' = w ++ '\r' :: ('\n' :: rest') := by
      simp [Resp.line, Resp.crlf]
    rw [htext]
    exact strchr_append hw hnul
  · right
    refine ⟨by omega, ?_⟩
    by_cases hcr : text.length ≤ w.length
    · left
      have hpre : text <+: w := by
        have hw' : w <+: Resp.line w ++ rest := by
          rw [Resp.line, List.append_assoc]
          exact List.prefix_append _ _
        exact List.prefix_of_prefix_length_le h hw' hcr
      exact strchr_eq_none fun hmem => hw (hpre.subset hmem)
    · right
      -- the carriage return is there, the newline is not
      have hpre : w ++ ['\r'] <+: text := by
        have hw' : w ++ ['\r'] <+: Resp.line w ++ rest := by
          have : Resp.line w ++ rest = (w ++ ['\r']) ++ ('\n' :: rest) := by
            simp [Resp.line, Resp.crlf]
          rw [this]
          exact List.prefix_append _ _
        refine List.prefix_of_prefix_length_le hw' h ?_
        rw [List.length_append, List.length_singleton]
        omega
      obtain ⟨more, rfl⟩ := hpre
      rw [List.append_assoc, List.singleton_append]
      exact strchr_append hw hnul

lemma notMem_intChars {n : ℕ} (hd : Numeral.isDigitIn 10 ch = false) :
    ch ∉ Numeral.intChars (n : ℤ) := by
  rw [Numeral.intChars, if_neg (by omega)]
  intro h
  have := Numeral.isDigitIn_of_mem_toDigits (by decide) (by decide) h
  rw [hd] at this
  exact absurd this (by simp)

lemma length_toDigits_le {k : ℕ} :
    ∀ {n : ℕ}, n < 10 ^ (k + 1) → (Nat.toDigits 10 n).length ≤ k + 1 := by
  induction k with
  | zero =>
    intro n hn
    rw [Nat.toDigits_eq_if (by decide), if_pos (by simpa using hn)]
    rfl
  | succ k ih =>
    intro n hn
    rw [Nat.toDigits_eq_if (by decide)]
    split
    · simp
    · have hdiv : n / 10 < 10 ^ (k + 1) := by
        rw [Nat.div_lt_iff_lt_mul (by decide), ← Nat.pow_succ]
        exact hn
      have := ih hdiv
      rw [List.length_append, List.length_singleton]
      omega

/-- The numbers in requests have at most nine digits. -/
lemma length_intChars_le {n : ℕ} (hn : n ≤ maxBulkLen) : (Numeral.intChars (n : ℤ)).length ≤ 9 := by
  rw [Numeral.intChars, if_neg (by omega), Int.natAbs_natCast]
  apply length_toDigits_le
  have : maxBulkLen < 10 ^ 9 := by decide
  omega

end Lines

/-! ## The arguments of a request -/

/-- What the client expects next, at a point where the rest of its text is `text`: the arguments
`args` and `after` behind them.  With a length known, its line is read. -/
def Expects (bulklen : Option ℕ) (text : List Char) (args : List (List Char))
    (after : List Char) : Prop :=
  match bulklen with
  | none => text = bulks args ++ after
  | some len =>
    ∃ a args', args = a :: args' ∧ len = a.length ∧ text = Resp.line a ++ (bulks args' ++ after)

/-- The buffer is so short that no line in it is refused as too long, or it holds no more than one
large argument. -/
def Fits (bulklen : Option ℕ) (querybuf : List Char) (pos : ℕ) : Prop :=
  querybuf.length ≤ protoInlineMaxSize ∨
    (pos = 0 ∧ ∃ b, bulklen = some b ∧ protoMbulkBigArg ≤ b ∧ querybuf.length ≤ b + 2)

/-- The buffer of a client that waits for more. -/
def Query.Settled (q : Query) : Prop :=
  match q.bulklen with
  | none => q.querybuf.length ≤ 64
  | some b => q.querybuf.length < b + 2

section Arguments

variable {env : ParseEnv} {q : Query} {pos : ℕ} {a : List Char} {args : List (List Char)}
  {after U : List Char}

@[simp] lemma length_line (w : List Char) : (Resp.line w).length = w.length + 2 := by
  simp [Resp.line, Resp.crlf]

/-- A prefix of a text that starts with `front`: all of `front` has arrived, or part of it. -/
lemma arrived_or_short {text front rest : List Char} (h : text ++ U = front ++ rest) :
    (∃ rest', text = front ++ rest' ∧ rest' ++ U = rest) ∨
      (text.length < front.length ∧ U ≠ []) := by
  obtain ⟨rest', rfl, hU⟩ | ⟨rest', rfl, hrest⟩ := List.append_eq_append_iff.mp h
  · by_cases hnil : rest' = []
    · subst hnil
      exact .inl ⟨[], by simp, by simpa using hU⟩
    · refine .inr ⟨?_, ?_⟩
      · rw [List.length_append]
        have := List.length_pos_iff.mpr hnil
        omega
      · rw [hU]
        simp [hnil]
  · exact .inl ⟨rest', rfl, hrest.symm⟩

/-- The number behind a marker, in a line that has arrived. -/
lemma strchr_numbered {mark : Char} (hm : mark ≠ '\r') (hm' : mark ≠ '\x00') (n : ℕ)
    {rest : List Char} :
    strchr '\r' (mark :: (Resp.line (Numeral.intChars n) ++ rest)) =
      some ((Numeral.intChars n).length + 1) := by
  have htext : mark :: (Resp.line (Numeral.intChars n) ++ rest) =
      (mark :: Numeral.intChars n) ++ '\r' :: ('\n' :: rest) := by simp [Resp.line, Resp.crlf]
  rw [htext, strchr_append]
  · rfl
  · rw [List.mem_cons, not_or]
    exact ⟨Ne.symm hm, notMem_intChars rfl⟩
  · rw [List.mem_cons, not_or]
    exact ⟨Ne.symm hm', notMem_intChars rfl⟩

/-- A line that has not arrived as a whole. -/
lemma strchr_unfinished {mark : Char} (hm : mark ≠ '\r') (hm' : mark ≠ '\x00') {n : ℕ}
    {text rest : List Char} (h : text ++ U = (mark :: Resp.line (Numeral.intChars n)) ++ rest)
    (hlen : text.length < (mark :: Resp.line (Numeral.intChars n)).length) :
    strchr '\r' text = none ∨
      ∃ newline, strchr '\r' text = some newline ∧ text.length < newline + 2 := by
  have hpre : text <+: Resp.line (mark :: Numeral.intChars n) ++ rest := ⟨U, h⟩
  obtain ⟨rest', rfl, -, -⟩ | ⟨hshort, hnone | hsome⟩ := strchr_prefix
    (w := mark :: Numeral.intChars n) (by
      rw [List.mem_cons, not_or]
      exact ⟨Ne.symm hm, notMem_intChars rfl⟩) (by
      rw [List.mem_cons, not_or]
      exact ⟨Ne.symm hm', notMem_intChars rfl⟩) hpre
  · simp at hlen
    omega
  · exact .inl hnone
  · exact .inr ⟨_, hsome, hshort⟩

/-- The length of the next argument: its line is read, or has not arrived and the client waits. -/
lemma nextBulk_spec (hd : env.ReadsDecimals) (ha : a.length ≤ maxBulkLen)
    (hpos : pos ≤ q.querybuf.length) (hfits : Fits q.bulklen q.querybuf pos)
    (h : Expects q.bulklen (q.querybuf.drop pos ++ U) (a :: args) after) :
    (nextBulk env q pos = .wait ∧ q.bulklen = none ∧ U ≠ [] ∧
        (q.querybuf.drop pos).length ≤ 64) ∨
      ∃ querybuf pos', nextBulk env q pos = .known a.length querybuf pos' ∧
        pos' ≤ querybuf.length ∧ Fits (some a.length) querybuf pos' ∧
        querybuf.drop pos' ++ U = Resp.line a ++ (bulks args ++ after) := by
  cases hb : q.bulklen with
  | some len =>
    rw [hb] at h hfits
    obtain ⟨_, _, hargs, rfl, htext⟩ := h
    obtain ⟨rfl, rfl⟩ := List.cons.inj hargs
    exact .inr ⟨q.querybuf, pos, by rw [nextBulk, hb], hpos, hfits, htext⟩
  | none =>
    rw [hb] at h hfits
    have hshort : q.querybuf.length ≤ protoInlineMaxSize := by
      rcases hfits with hle | ⟨-, b, hb', -⟩
      · exact hle
      · exact absurd hb' (by simp)
    have hdigits := length_intChars_le ha
    have htext : q.querybuf.drop pos ++ U =
        ('$' :: Resp.line (Numeral.intChars a.length)) ++
          (Resp.line a ++ (bulks args ++ after)) := by
      rw [h, bulks_cons, bulkText]
      simp
    rw [nextBulk, hb]
    dsimp only
    rw [readBulkLen]
    rcases arrived_or_short htext with ⟨rest, hdrop, hrest⟩ | ⟨hlen, hU⟩
    · right
      have hlength : (q.querybuf.drop pos).length =
          (Numeral.intChars a.length).length + 3 + rest.length := by
        rw [hdrop]
        simp
        omega
      rw [List.length_drop] at hlength
      have hdropped :
          q.querybuf.drop (pos + ((Numeral.intChars a.length).length + 1) + 2) = rest := by
        have : rest = (q.querybuf.drop pos).drop ((Numeral.intChars a.length).length + 1 + 2) := by
          rw [hdrop]
          simp
        rw [this, List.drop_drop]
        congr 1
      rw [hdrop, List.cons_append, strchr_numbered (by decide) (by decide)]
      dsimp only
      rw [if_neg (by omega), if_neg (by simp)]
      have htake : (Resp.line (Numeral.intChars a.length) ++ rest).take
          ((Numeral.intChars a.length).length + 1 - 1) = Numeral.intChars a.length := by
        rw [Nat.add_sub_cancel, Resp.line, List.append_assoc, List.take_left]
      rw [htake, hd _ ha]
      dsimp only
      rw [if_neg (by omega)]
      split
      · rename_i hbig
        refine ⟨_, 0, by rw [Int.toNat_natCast], Nat.zero_le _, .inl ?_, ?_⟩
        · rw [hdropped]
          omega
        · rw [List.drop_zero, hdropped, hrest]
      · refine ⟨_, _, by rw [Int.toNat_natCast], by omega, .inl hshort, ?_⟩
        rw [hdropped, hrest]
    · left
      have h64 : (q.querybuf.drop pos).length ≤ 64 := by
        simp only [List.length_cons, length_line] at hlen
        omega
      refine ⟨?_, rfl, hU, h64⟩
      rcases strchr_unfinished (by decide) (by decide) htext hlen with hnone | ⟨newline, hsome, hlt⟩
      · rw [hnone]
        dsimp only
        rw [if_neg (by omega)]
      · rw [hsome]
        dsimp only
        rw [List.length_drop] at hlt
        rw [if_pos (by omega)]

/-- What the loop over the arguments `args` does to the client `q`: all of them are taken, or the
client waits with some of them left. -/
structure Takes (q : Query) (args : List (List Char)) (after U : List Char) (r : Parse × Query) :
    Prop where
  reqtype_eq : r.2.reqtype = q.reqtype
  outcome :
    (r.1 = .complete ∧ r.2.argv = q.argv ++ args ∧ r.2.querybuf ++ U = after ∧
        r.2.querybuf.length ≤ protoInlineMaxSize) ∨
      (r.1 = .incomplete ∧ U ≠ [] ∧ r.2.Settled ∧ ∃ done left, args = done ++ left ∧ left ≠ [] ∧
        r.2.argv = q.argv ++ done ∧ r.2.multibulklen = left.length ∧
        Expects r.2.bulklen (r.2.querybuf ++ U) left after)

/-- One argument more. -/
lemma Takes.cons {q₁ : Query} {r : Parse × Query} (h : Takes q₁ args after U r)
    (htype : q₁.reqtype = q.reqtype) (hargv : q₁.argv = q.argv ++ [a]) :
    Takes q (a :: args) after U r := by
  refine ⟨h.reqtype_eq.trans htype, ?_⟩
  rcases h.outcome with ⟨hr, hargv', hU, hlen⟩ |
    ⟨hr, hU, hset, done, left, rfl, hleft, hargv', hrest⟩
  · exact .inl ⟨hr, by rw [hargv', hargv]; simp, hU, hlen⟩
  · exact .inr ⟨hr, hU, hset, a :: done, left, rfl, hleft, by rw [hargv', hargv]; simp, hrest⟩

/-- The loop over the arguments takes those that have arrived. -/
lemma readArguments_spec (hd : env.ReadsDecimals) :
    ∀ (args : List (List Char)) {q : Query} {pos : ℕ}, (∀ a ∈ args, a.length ≤ maxBulkLen) →
      pos ≤ q.querybuf.length → Fits q.bulklen q.querybuf pos →
      Expects q.bulklen (q.querybuf.drop pos ++ U) args after →
      Takes q args after U (readArguments env args.length q pos)
  | [], q, pos, _, _, hfits, h => by
    have hb : q.bulklen = none := by
      cases hb : q.bulklen with
      | none => rfl
      | some b =>
        rw [hb] at h
        obtain ⟨_, _, hargs, -⟩ := h
        exact absurd hargs (by simp)
    rw [hb] at h hfits
    refine ⟨rfl, .inl ⟨rfl, by simp [readArguments], h, ?_⟩⟩
    rcases hfits with hle | ⟨-, b, hb', -⟩
    · simp only [readArguments, List.length_nil, List.length_drop]
      omega
    · exact absurd hb' (by simp)
  | a :: args, q, pos, hargs, hpos, hfits, h => by
    have ha := hargs a (List.mem_cons_self ..)
    have hargs' : ∀ b ∈ args, b.length ≤ maxBulkLen := fun b hb =>
      hargs b (List.mem_cons_of_mem _ hb)
    rw [List.length_cons, readArguments]
    rcases nextBulk_spec hd ha hpos hfits h with ⟨hwait, hb, hU, h64⟩ |
      ⟨querybuf, pos', hknown, hpos', hfits', htext⟩
    · rw [hwait]
      refine ⟨rfl, .inr ⟨rfl, hU, ?_, [], a :: args, rfl, by simp, by simp, rfl, h⟩⟩
      rw [Query.Settled]
      dsimp only
      rw [hb]
      exact h64
    · rw [hknown]
      dsimp only
      split
      · rename_i hshort
        refine ⟨rfl, .inr ⟨rfl, ?_, ?_, [], a :: args, rfl, by simp, by simp, rfl,
          a, args, rfl, rfl, htext⟩⟩
        · rintro rfl
          have := congrArg List.length htext
          simp at this
          omega
        · rw [Query.Settled]
          dsimp only
          rw [List.length_drop]
          exact hshort
      · rename_i hfull
        obtain ⟨rest, hdrop, hrest⟩ | ⟨hlen, -⟩ := arrived_or_short htext
        swap
        · rw [List.length_drop, length_line] at hlen
          omega
        have htake : (querybuf.drop pos').take a.length = a := by
          rw [hdrop, Resp.line, List.append_assoc, List.take_left]
        split
        · rename_i hwhole
          obtain ⟨rfl, -, hlen⟩ := hwhole
          have hnil : rest = [] := by
            rw [← List.length_eq_zero_iff]
            have := congrArg List.length hdrop
            simp at this
            omega
          rw [List.drop_zero] at htake
          refine (readArguments_spec hd args hargs' (Nat.zero_le _) (.inl (Nat.zero_le _)) ?_).cons
            rfl (by rw [htake])
          subst hnil
          exact hrest
        · rename_i hcopy
          refine (readArguments_spec hd args hargs' (by dsimp only; omega) (.inl ?_) ?_).cons
            rfl (by rw [htake])
          · rcases hfits' with hle | ⟨rfl, b, hb, hbig, hlen⟩
            · exact hle
            · obtain rfl := Option.some.inj hb
              exact absurd ⟨rfl, hbig, by omega⟩ hcopy
          · have hdrop' : querybuf.drop (pos' + a.length + 2) = rest := by
              rw [Nat.add_assoc, ← List.drop_drop, hdrop]
              simp
            rw [hdrop']
            exact hrest

/-- The line with the number of arguments. -/
lemma readMultibulkLen_spec (hd : env.ReadsDecimals) {argv : List (List Char)} (hs : Sendable argv)
    (hargv : q.argv = []) (hlen : q.querybuf.length ≤ protoInlineMaxSize)
    (h : q.querybuf ++ U = requestText argv ++ after) :
    (readMultibulkLen env q = .done .incomplete q ∧ U ≠ [] ∧ q.querybuf.length ≤ 64) ∨
      ∃ pos, readMultibulkLen env q =
          .arguments { q with multibulklen := argv.length, argv := [] } pos ∧
        pos ≤ q.querybuf.length ∧ q.querybuf.drop pos ++ U = bulks argv ++ after := by
  have hmax : argv.length ≤ maxBulkLen := hs.length_le.trans (by decide)
  have hdigits := length_intChars_le hmax
  have hpos := List.length_pos_iff.mpr hs.ne_nil
  have htext : q.querybuf ++ U =
      ('*' :: Resp.line (Numeral.intChars argv.length)) ++ (bulks argv ++ after) := by
    rw [h, requestText_eq]
    simp
  rw [readMultibulkLen, if_neg (by simp [hargv])]
  rcases arrived_or_short htext with ⟨rest, hbuf, hrest⟩ | ⟨hshort, hU⟩
  · right
    have hlength : q.querybuf.length = (Numeral.intChars argv.length).length + 3 + rest.length := by
      rw [hbuf]
      simp
      omega
    have htake : (q.querybuf.take ((Numeral.intChars argv.length).length + 1)).drop 1 =
        Numeral.intChars argv.length := by
      rw [hbuf, List.cons_append, List.take_succ_cons, List.drop_one, List.tail_cons, Resp.line,
        List.append_assoc, List.take_left]
    have hstr : strchr '\r' q.querybuf = some ((Numeral.intChars argv.length).length + 1) := by
      rw [hbuf, List.cons_append, strchr_numbered (by decide) (by decide)]
    rw [hstr]
    dsimp only
    rw [if_neg (by omega), if_neg (by rw [hbuf]; simp), htake, hd _ hmax]
    dsimp only
    rw [if_neg (by have := hs.length_le; omega), if_neg (by omega), Int.toNat_natCast]
    refine ⟨_, rfl, by omega, ?_⟩
    rw [← hrest, hbuf]
    simp
  · left
    have h64 : q.querybuf.length ≤ 64 := by
      simp only [List.length_cons, length_line] at hshort
      omega
    refine ⟨?_, hU, h64⟩
    rcases strchr_unfinished (by decide) (by decide) htext hshort with hnone | ⟨newline, hsome, hlt⟩
    · rw [hnone]
      dsimp only
      rw [if_neg (by omega)]
    · rw [hsome]
      dsimp only
      rw [if_pos hlt]

end Arguments

/-! ## A client between two requests or inside one -/

/-- The client has taken a part of what was sent to it and the requests `cmds` are what is left,
the first of them maybe in part: `text` is what is in its buffer and on its way. -/
inductive Represents (q : Query) (text : List Char) (cmds : List (List (List Char))) : Prop
  | between (hargv : q.argv = []) (hleft : q.multibulklen = 0) (hbulk : q.bulklen = none)
      (htype : q.reqtype = none ∨ q.reqtype = some .multibulk) (htext : text = requests cmds)
  | within (args : List (List Char)) (later : List (List (List Char)))
      (hcmds : cmds = (q.argv ++ args) :: later) (hne : args ≠ [])
      (hleft : q.multibulklen = args.length) (htype : q.reqtype = some .multibulk)
      (htext : Expects q.bulklen text args (requests later))

section Represents

variable {env : ParseEnv} {q : Query} {cmds : List (List (List Char))} {U : List Char}

/-- What an attempt to parse a request makes of a client with the requests `cmds` before it: the
first of them is complete, or the client waits. -/
inductive Parsed (cmds : List (List (List Char))) (U : List Char) : Parse × Query → Prop
  | complete {q : Query} (later : List (List (List Char))) (hcmds : cmds = q.argv :: later)
      (htext : q.querybuf ++ U = requests later) (hlen : q.querybuf.length ≤ protoInlineMaxSize) :
      Parsed cmds U (.complete, q)
  | incomplete {q : Query} (hU : U ≠ []) (hset : q.Settled)
      (hrep : Represents q (q.querybuf ++ U) cmds) : Parsed cmds U (.incomplete, q)

/-- The loop over the arguments ends in a complete request, or inside one. -/
lemma Takes.parsed {args : List (List Char)} {later : List (List (List Char))} {r : Parse × Query}
    (h : Takes q args (requests later) U r) (htype : q.reqtype = some .multibulk) :
    Parsed ((q.argv ++ args) :: later) U r := by
  obtain ⟨p, q'⟩ := r
  rcases h.outcome with ⟨hp, hargv, htext, hlen⟩ |
    ⟨hp, hU, hset, done, left, hsplit, hleft, hargv, hmb, hexp⟩
  · obtain rfl : p = .complete := hp
    exact .complete later (by rw [hargv]) htext hlen
  · obtain rfl : p = .incomplete := hp
    refine .incomplete hU hset (.within left later ?_ hleft hmb (h.reqtype_eq.trans htype) hexp)
    rw [hargv, hsplit, List.append_assoc]

/-- One attempt to parse a request, on a buffer with something in it. -/
lemma parseRequest_spec (hd : env.ReadsDecimals) (hcmds : ∀ c ∈ cmds, Sendable c)
    (hne : q.querybuf ≠ []) (hfits : Fits q.bulklen q.querybuf 0)
    (h : Represents q (q.querybuf ++ U) cmds) :
    Parsed cmds U (parseRequest env q.typed) := by
  cases h with
  | between hargv hleft hbulk htype htext =>
    cases cmds with
    | nil => exact absurd htext (by simp [hne])
    | cons argv later =>
      have hs := hcmds argv (List.mem_cons_self ..)
      have hhead : q.querybuf.head? = some '*' := by
        have := congrArg List.head? htext
        rwa [List.head?_append_of_ne_nil _ hne] at this
      have htyped : q.typed = { q with reqtype := some .multibulk } := by
        obtain ⟨_, _, _, _, _⟩ := q
        rcases htype with rfl | rfl
        · rw [Query.typed]
          dsimp only
          rw [if_pos hhead]
        · rfl
      have hlen : q.querybuf.length ≤ protoInlineMaxSize := by
        rw [hbulk] at hfits
        rcases hfits with hle | ⟨-, b, hb, -⟩
        · exact hle
        · exact absurd hb (by simp)
      rw [htyped, parseRequest]
      dsimp only
      rw [processMultibulkBuffer, if_pos hleft]
      rcases readMultibulkLen_spec (q := { q with reqtype := some .multibulk }) hd hs hargv hlen
        htext with ⟨hwait, hU, h64⟩ | ⟨pos, hgo, hpos, hrest⟩
      · rw [hwait]
        refine .incomplete hU ?_ (.between hargv hleft hbulk (.inr rfl) htext)
        rw [Query.Settled]
        dsimp only
        rw [hbulk]
        exact h64
      · rw [hgo]
        have hexp : Expects q.bulklen (q.querybuf.drop pos ++ U) argv (requests later) := by
          rw [hbulk]
          exact hrest
        have htakes := readArguments_spec (q := ⟨q.querybuf, some .multibulk, [], argv.length,
          q.bulklen⟩) hd argv hs.bulk_le hpos (.inl hlen) hexp
        exact htakes.parsed rfl
  | within args later hcmds' hargs hleft htype htext =>
    subst hcmds'
    have hs := hcmds _ (List.mem_cons_self ..)
    have htyped : q.typed = q := by rw [Query.typed, htype]
    have hpos : q.multibulklen ≠ 0 := by
      rw [hleft]
      exact (List.length_pos_iff.mpr hargs).ne'
    rw [htyped, parseRequest, htype]
    dsimp only
    rw [processMultibulkBuffer, if_neg hpos, hleft]
    exact (readArguments_spec hd args (fun a ha => hs.bulk_le a (List.mem_append_right _ ha))
      (Nat.zero_le _) hfits htext).parsed htype

/-- The requests that are left take up the bytes that are left. -/
lemma Represents.length_lt {text : List Char} {argv : List (List Char)}
    {later : List (List (List Char))} (h : Represents q text (argv :: later)) :
    (requests later).length < text.length := by
  cases h with
  | between hargv hleft hbulk htype htext =>
    rw [htext, requests_cons, requestText_eq, List.length_append, List.length_cons]
    omega
  | within args later' hcmds hargs hleft htype htext =>
    obtain ⟨-, rfl⟩ := List.cons.inj hcmds
    cases hb : q.bulklen with
    | none =>
      rw [hb] at htext
      obtain ⟨a, args', rfl⟩ := List.exists_cons_of_ne_nil hargs
      rw [htext, bulks_cons, bulkText, List.length_append, List.length_append, List.length_cons]
      omega
    | some len =>
      rw [hb] at htext
      obtain ⟨a, args', -, -, rfl⟩ := htext
      simp only [List.length_append, length_line]
      omega

/-- Nothing is left when no byte is. -/
lemma Represents.eq_nil (h : Represents q [] cmds) : cmds = [] := by
  cases cmds with
  | nil => rfl
  | cons argv later => exact absurd h.length_lt (Nat.not_lt_zero _)

/-- A client that waits for the bytes `U`, in which the requests `cmds` end. -/
structure Waits (q : Query) (U : List Char) (cmds : List (List (List Char))) : Prop where
  represents : Represents q (q.querybuf ++ U) cmds
  settled : q.Settled
  /-- Without a byte to wait for, every request has been executed. -/
  done : U = [] → cmds = []

lemma waits_new (cmds : List (List (List Char))) : Waits Query.new (requests cmds) cmds where
  represents := .between rfl rfl rfl (.inl rfl) rfl
  settled := Nat.zero_le _
  done := fun h => (Represents.between rfl rfl rfl (.inl rfl) h.symm :
    Represents Query.new [] cmds).eq_nil

end Represents

/-! ## One read -/

section Reads

variable {env : ParseEnv} {host : Host σ} {q : Query} {s : σ} {cmds : List (List (List Char))}
  {U : List Char}

/-- What a request does to the server. -/
def Host.request (host : Host σ) (s : σ) (argv : List (List Char)) : Option σ :=
  if argv = [] then some (host.resetClient s)
  else (host.processCommand s argv).map fun r => if r.1 then host.resetClient r.2 else r.2

/-- Requests one after the other, until one of them has the connection closed. -/
def Host.run (host : Host σ) : σ → List (List (List Char)) → Option σ
  | s, [] => some s
  | s, argv :: cmds =>
    if host.closing s then some s else (host.request s argv).bind fun s' => host.run s' cmds

/-- What the parser relies on. -/
structure Host.Lawful (host : Host σ) : Prop where
  /-- `processCommand` returns `C_ERR` only for a connection that is to be closed. -/
  closing_of_err : ∀ {s argv s'}, host.processCommand s argv = some (false, s') →
    host.closing s' = true
  /-- `setProtocolError` has the connection closed. -/
  closing_protocolError : ∀ s text, host.closing (host.protocolError s text) = true

lemma processInput_of_closing (h : host.closing s = true) :
    ∀ fuel, processInput env host fuel q s = some (q, s)
  | 0 => rfl
  | fuel + 1 => by
    rw [processInput, h]
    simp

lemma Host.run_cons_of_not_closing (h : host.closing s = false) (argv : List (List Char)) :
    host.run s (argv :: cmds) = (host.request s argv).bind fun s' => host.run s' cmds := by
  rw [Host.run, if_neg (by simp [h])]

/-- What the loop over the buffer does for a client with the requests `cmds` before it: it executes
the first of them, and the server does not survive, or the connection is to be closed, or the
client waits with the others before it. -/
def Advances (host : Host σ) (s : σ) (cmds : List (List (List Char))) (U : List Char)
    (r : Option (Query × σ)) : Prop :=
  ∃ now later, cmds = now ++ later ∧ r.map Prod.snd = host.run s now ∧
    ∀ q' s', r = some (q', s') → host.closing s' = true ∨ Waits q' U later

lemma Advances.stop {r : Option (Query × σ)} (hr : r = some (q, s))
    (h : host.closing s = true ∨ Waits q U cmds) : Advances host s cmds U r := by
  subst hr
  refine ⟨[], cmds, rfl, rfl, fun q' s' hr => ?_⟩
  obtain ⟨rfl, rfl⟩ := Prod.mk.inj (Option.some.inj hr)
  exact h

/-- A request is executed before the others. -/
lemma Advances.cons {argv : List (List Char)} {s₁ : σ} {r : Option (Query × σ)}
    (h : Advances host s₁ cmds U r) (hs : host.closing s = false)
    (hreq : host.request s argv = some s₁) : Advances host s (argv :: cmds) U r := by
  obtain ⟨now, later, rfl, hrun, hend⟩ := h
  refine ⟨argv :: now, later, rfl, ?_, hend⟩
  rw [Host.run_cons_of_not_closing hs, hreq, Option.bind_some, hrun]

/-- The loop over the buffer. -/
lemma processInput_spec (hd : env.ReadsDecimals) (hl : host.Lawful) :
    ∀ (fuel : ℕ) {q : Query} {s : σ} {cmds : List (List (List Char))},
      (∀ c ∈ cmds, Sendable c) → q.querybuf.length ≤ fuel → Fits q.bulklen q.querybuf 0 →
      Represents q (q.querybuf ++ U) cmds → Advances host s cmds U (processInput env host fuel q s)
  | fuel, q, s, cmds, hcmds, hfuel, hfits, h => by
    have hempty : q.querybuf = [] → Advances host s cmds U (some (q, s)) := by
      intro hnil
      refine .stop rfl (.inr ⟨h, ?_, ?_⟩)
      · rw [Query.Settled, hnil]
        cases q.bulklen <;> simp
      · rintro rfl
        rw [hnil] at h
        exact h.eq_nil
    cases fuel with
    | zero => exact hempty (List.length_eq_zero_iff.mp (Nat.le_zero.mp hfuel))
    | succ fuel =>
      rw [processInput]
      by_cases hnil : q.querybuf = []
      · rw [if_pos hnil]
        exact hempty hnil
      rw [if_neg hnil]
      cases hc : host.closing s with
      | true => exact .stop rfl (.inl hc)
      | false =>
        rw [if_neg (by simp)]
        have hparsed : Parsed cmds U (parseRequest env q.typed) :=
          parseRequest_spec hd hcmds hnil hfits h
        generalize parseRequest env q.typed = r at hparsed
        cases hparsed with
        | incomplete hU hset hrep =>
          exact .stop rfl (.inr ⟨hrep, hset, fun hnil => absurd hnil hU⟩)
        | @complete q' later hcmds' htext hlen =>
          subst hcmds'
          have hargv := (hcmds _ (List.mem_cons_self ..)).ne_nil
          have hlater : ∀ c ∈ later, Sendable c := fun c hc => hcmds c (List.mem_cons_of_mem _ hc)
          have hshort : q'.querybuf.length ≤ fuel := by
            have := h.length_lt
            rw [← htext, List.length_append, List.length_append] at this
            omega
          dsimp only
          rw [if_neg hargv]
          have hreq : host.request s q'.argv = (host.processCommand s q'.argv).map
              fun r => if r.1 then host.resetClient r.2 else r.2 := by
            rw [Host.request, if_neg hargv]
          cases hcall : host.processCommand s q'.argv with
          | none =>
            refine ⟨[q'.argv], later, rfl, ?_, by simp⟩
            rw [Host.run_cons_of_not_closing hc, hreq, hcall]
            rfl
          | some r =>
            obtain ⟨ok, s'⟩ := r
            rw [hcall] at hreq
            cases ok with
            | true =>
              dsimp only
              exact (processInput_spec (q := q'.reset) hd hl fuel hlater hshort (.inl hlen)
                (.between rfl rfl rfl (.inl rfl) htext)).cons hc hreq
            | false =>
              have hc' := hl.closing_of_err hcall
              dsimp only
              rw [processInput_of_closing hc']
              exact (Advances.stop rfl (.inl hc')).cons hc hreq

/-- A client that waits never asks for more bytes than it has room for. -/
lemma Waits.fits (h : Waits q U cmds) {data : List Char} (hdata : data.length ≤ q.readlen) :
    Fits q.bulklen (q.querybuf ++ data) 0 := by
  have hset := h.settled
  rw [Query.Settled] at hset
  rw [Query.readlen] at hdata
  rw [Fits, List.length_append]
  have hmax : protoInlineMaxSize = 65536 ∧ protoIobufLen = 16384 ∧ protoMbulkBigArg = 32768 := by
    decide
  cases hb : q.bulklen with
  | none =>
    rw [hb] at hset hdata
    dsimp only at hset hdata
    omega
  | some b =>
    rw [hb] at hset hdata
    dsimp only at hset hdata
    by_cases hbig : protoMbulkBigArg ≤ b
    · right
      cases h.represents with
      | between hargv hleft hbulk => exact absurd hbulk (by simp [hb])
      | within args later hcmds hargs hleft htype =>
        have hpos : q.multibulklen ≠ 0 := by
          rw [hleft]
          exact (List.length_pos_iff.mpr hargs).ne'
        rw [if_pos ⟨htype, hpos, hbig⟩] at hdata
        exact ⟨rfl, b, rfl, hbig, by omega⟩
    · left
      rw [if_neg (fun hand => hbig hand.2.2)] at hdata
      omega

/-- The limit of the query buffer is out of reach. -/
lemma Waits.length_le (h : Waits q U cmds) (hcmds : ∀ c ∈ cmds, Sendable c) {data : List Char}
    (hdata : data.length ≤ q.readlen) :
    (q.querybuf ++ data).length ≤ clientMaxQuerybufLen := by
  have hmax : protoInlineMaxSize ≤ clientMaxQuerybufLen ∧
      maxBulkLen + 2 ≤ clientMaxQuerybufLen := by decide
  rcases h.fits hdata with hle | ⟨-, b, hb, -, hle⟩
  · omega
  · cases h.represents with
    | between hargv hleft hbulk => exact absurd hbulk (by simp [hb])
    | within args later hcmds' hargs hleft htype htext =>
      rw [hb] at htext
      obtain ⟨a, args', rfl, rfl, -⟩ := htext
      have := (hcmds _ (by rw [hcmds']; exact List.mem_cons_self ..)).bulk_le a (by simp)
      omega

/-- The loop over the buffer, after bytes have arrived for a client that waits. -/
lemma processInputBuffer_spec (hd : env.ReadsDecimals) (hl : host.Lawful)
    (hcmds : ∀ c ∈ cmds, Sendable c) {data : List Char} (hdata : data.length ≤ q.readlen)
    (h : Waits q (data ++ U) cmds) (s : σ) :
    Advances host s cmds U
      (processInputBuffer env host { q with querybuf := q.querybuf ++ data } s) := by
  refine processInput_spec hd hl _ hcmds le_rfl (h.fits hdata) ?_
  have hrep := h.represents
  rw [← List.append_assoc] at hrep
  cases hrep with
  | between hargv hleft hbulk htype htext => exact .between hargv hleft hbulk htype htext
  | within args later hcmds' hargs hleft htype htext =>
    exact .within args later hcmds' hargs hleft htype htext

end Reads

/-! ## Any bytes -/

/-- A client on whose buffer neither assertion of the parser fails. -/
structure Query.Ready (q : Query) : Prop where
  /-- `c->argc == 0`, at the start of a request. -/
  idle : q.multibulklen = 0 → q.argv = []
  /-- `c->querybuf[0] == '*'`, at the start of a multi bulk request. -/
  marked : q.reqtype = some .multibulk → q.multibulklen = 0 → q.querybuf.head? = some '*'
  single : q.reqtype ≠ some .multibulk → q.multibulklen = 0

section AnyBytes

variable {env : ParseEnv} {host : Host σ} {q : Query}

lemma Query.ready_new : Query.new.Ready where
  idle _ := rfl
  marked h := absurd h (by simp [Query.new])
  single _ := rfl

lemma Query.ready_reset (q : Query) : q.reset.Ready where
  idle _ := rfl
  marked h := absurd h (by simp [Query.reset])
  single _ := rfl

/-- More bytes do no harm. -/
lemma Query.Ready.append (h : q.Ready) (data : List Char) :
    ({ q with querybuf := q.querybuf ++ data } : Query).Ready where
  idle := h.idle
  marked htype hzero := by
    have hhead := h.marked htype hzero
    dsimp only
    cases hbuf : q.querybuf with
    | nil => rw [hbuf] at hhead; exact absurd hhead (by simp)
    | cons ch rest => rw [hbuf] at hhead; exact hhead
  single := h.single

lemma Query.Ready.typed (h : q.Ready) : q.typed.Ready ∧ q.typed.reqtype ≠ none := by
  rw [Query.typed]
  split
  · rename_i htype
    exact ⟨h, by simp [htype]⟩
  · rename_i htype
    refine ⟨⟨h.idle, fun hm _ => ?_, fun _ => h.single (by simp [htype])⟩, by simp⟩
    dsimp only at hm ⊢
    by_contra hhead
    rw [if_neg hhead] at hm
    exact absurd hm (by simp)

/-- The loop over the arguments fails no assertion, and waits inside a request. -/
lemma readArguments_ready (env : ParseEnv) : ∀ (left : ℕ) (q : Query) (pos : ℕ),
    (readArguments env left q pos).1 ≠ .assertFailed ∧
      (readArguments env left q pos).2.reqtype = q.reqtype ∧
      ((readArguments env left q pos).1 = .incomplete →
        (readArguments env left q pos).2.multibulklen ≠ 0)
  | 0, q, pos => ⟨by simp [readArguments], rfl, fun h => absurd h (by simp [readArguments])⟩
  | left + 1, q, pos => by
    rw [readArguments]
    split
    · exact ⟨by simp, rfl, fun h => absurd h (by simp)⟩
    · exact ⟨by simp, rfl, fun _ => by simp⟩
    · split
      · exact ⟨by simp, rfl, fun _ => by simp⟩
      · split
        · exact readArguments_ready env left _ _
        · exact readArguments_ready env left _ _

/-- The first line of a request fails no assertion. -/
lemma readMultibulkLen_ready (env : ParseEnv) (h : q.Ready) (htype : q.reqtype = some .multibulk)
    (hzero : q.multibulklen = 0) :
    (∃ p q', readMultibulkLen env q = .done p q' ∧ p ≠ .assertFailed ∧ (p = .incomplete → q' = q)) ∨
      ∃ q' pos, readMultibulkLen env q = .arguments q' pos ∧ q'.reqtype = q.reqtype := by
  rw [readMultibulkLen, if_neg (by simp [h.idle hzero])]
  split
  · left
    split
    · exact ⟨_, _, rfl, by simp, by simp⟩
    · exact ⟨_, _, rfl, by simp, fun _ => rfl⟩
  · split
    · exact .inl ⟨_, _, rfl, by simp, fun _ => rfl⟩
    · rw [if_neg (by simp [h.marked htype hzero])]
      split
      · exact .inl ⟨_, _, rfl, by simp, by simp⟩
      · split
        · exact .inl ⟨_, _, rfl, by simp, by simp⟩
        · split
          · exact .inl ⟨_, _, rfl, by simp, by simp⟩
          · exact .inr ⟨_, _, rfl, rfl⟩

lemma processMultibulkBuffer_ready (h : q.Ready) (htype : q.reqtype = some .multibulk) :
    (processMultibulkBuffer env q).1 ≠ .assertFailed ∧
      ((processMultibulkBuffer env q).1 = .incomplete →
        (processMultibulkBuffer env q).2.Ready) := by
  -- a client that waits inside a multi bulk request has nothing to check
  have hwait : ∀ left q' pos, q'.reqtype = some ReqType.multibulk →
      (readArguments env left q' pos).1 ≠ .assertFailed ∧
        ((readArguments env left q' pos).1 = .incomplete →
          (readArguments env left q' pos).2.Ready) := by
    intro left q' pos htype'
    obtain ⟨hassert, hsame, hleft⟩ := readArguments_ready env left q' pos
    exact ⟨hassert, fun hinc => ⟨fun hz => absurd hz (hleft hinc),
      fun _ hz => absurd hz (hleft hinc), fun hne => absurd (hsame.trans htype') hne⟩⟩
  rw [processMultibulkBuffer]
  split
  · rename_i hzero
    rcases readMultibulkLen_ready env h htype hzero with ⟨p, q', hdone, hassert, hinc⟩ |
      ⟨q', pos, hgo, hsame⟩
    · rw [hdone]
      refine ⟨hassert, fun hp => ?_⟩
      rw [hinc hp]
      exact h
    · rw [hgo]
      exact hwait _ q' pos (hsame.trans htype)
  · exact hwait _ q 0 htype

lemma parseRequest_ready (env : ParseEnv) (h : q.Ready) :
    (parseRequest env q.typed).1 ≠ .assertFailed ∧
      ((parseRequest env q.typed).1 = .incomplete → (parseRequest env q.typed).2.Ready) := by
  obtain ⟨hready, htyped⟩ := h.typed
  rw [parseRequest]
  split
  · rename_i htype
    exact processMultibulkBuffer_ready hready htype
  · rw [processInlineBuffer]
    split
    · split
      · exact ⟨by simp, fun hinc => absurd hinc (by simp)⟩
      · exact ⟨by simp, fun _ => hready⟩
    · dsimp only
      split
      · exact ⟨by simp, fun hinc => absurd hinc (by simp)⟩
      · exact ⟨by simp, fun hinc => absurd hinc (by simp)⟩

/-- Nothing that the client holds is longer than the query buffer may get. -/
structure Query.Small (q : Query) : Prop where
  querybuf_le : q.querybuf.length ≤ clientMaxQuerybufLen
  argv_le : ∀ a ∈ q.argv, a.length ≤ clientMaxQuerybufLen

lemma Query.small_new : Query.new.Small := ⟨Nat.zero_le _, fun a ha => by cases ha⟩

lemma Query.Small.reset (h : q.Small) : q.reset.Small :=
  ⟨h.querybuf_le, fun a ha => by cases ha⟩

lemma Query.Small.typed (h : q.Small) : q.typed.Small := by
  rw [Query.typed]
  split
  · exact h
  · exact ⟨h.querybuf_le, h.argv_le⟩

/-- The words of a line are no longer than the line. -/
def ParseEnv.SplitsLines (env : ParseEnv) : Prop :=
  ∀ {text argv}, env.sdssplitargs text = some argv → ∀ a ∈ argv, a.length ≤ text.length

lemma length_le_of_nextBulk {pos len pos' : ℕ} {querybuf : List Char}
    (h : nextBulk env q pos = .known len querybuf pos') : querybuf.length ≤ q.querybuf.length := by
  rw [nextBulk] at h
  split at h
  · obtain ⟨-, rfl, -⟩ := BulkLine.known.inj h
    exact le_rfl
  · rw [readBulkLen] at h
    split at h
    · split at h <;> exact absurd h (by simp)
    · split at h
      · exact absurd h (by simp)
      · split at h
        · exact absurd h (by simp)
        · split at h
          · exact absurd h (by simp)
          · split at h
            · exact absurd h (by simp)
            · split at h
              · exact absurd h (by simp)
              · split at h
                · obtain ⟨-, rfl, -⟩ := BulkLine.known.inj h
                  rw [List.length_drop]
                  omega
                · obtain ⟨-, rfl, -⟩ := BulkLine.known.inj h
                  exact le_rfl

lemma readArguments_small : ∀ (left : ℕ) (q : Query) (pos : ℕ), q.Small →
    (readArguments env left q pos).2.Small
  | 0, q, pos, h => ⟨by simp only [readArguments, List.length_drop]; have := h.querybuf_le; omega,
      h.argv_le⟩
  | left + 1, q, pos, h => by
    have hdrop : ∀ k, (q.querybuf.drop k).length ≤ clientMaxQuerybufLen := fun k => by
      rw [List.length_drop]
      have := h.querybuf_le
      omega
    rw [readArguments]
    split
    · exact ⟨hdrop _, h.argv_le⟩
    · exact ⟨hdrop _, h.argv_le⟩
    · rename_i len querybuf pos' hnext
      have hbuf := (length_le_of_nextBulk hnext).trans h.querybuf_le
      -- an argument is a piece of the buffer
      have hargv : ∀ k, ∀ a ∈ q.argv ++ [(querybuf.drop k).take len],
          a.length ≤ clientMaxQuerybufLen := by
        intro k a ha
        rcases List.mem_append.mp ha with ha | ha
        · exact h.argv_le a ha
        · rw [List.mem_singleton.mp ha, List.length_take, List.length_drop]
          omega
      split
      · refine ⟨?_, h.argv_le⟩
        dsimp only
        rw [List.length_drop]
        omega
      · split
        · exact readArguments_small left _ _ ⟨Nat.zero_le _, by simpa using hargv 0⟩
        · exact readArguments_small left _ _ ⟨hbuf, hargv pos'⟩

lemma readMultibulkLen_small (env : ParseEnv) (h : q.Small) :
    (∀ p q', readMultibulkLen env q = .done p q' → q'.Small) ∧
      ∀ q' pos, readMultibulkLen env q = .arguments q' pos → q'.Small := by
  rw [readMultibulkLen]
  have hdone : ∀ p, (∀ p' q', CountLine.done p q = .done p' q' → q'.Small) ∧
      ∀ q' pos, CountLine.done p q = .arguments q' pos → q'.Small := by
    refine fun p => ⟨fun p' q' hq => ?_, fun q' pos hq => absurd hq (by simp)⟩
    obtain ⟨-, rfl⟩ := CountLine.done.inj hq
    exact h
  split
  · exact hdone _
  · split
    · split <;> exact hdone _
    · split
      · exact hdone _
      · split
        · exact hdone _
        · split
          · exact hdone _
          · split
            · exact hdone _
            · split
              · refine ⟨fun p' q' hq => ?_, fun q' pos hq => absurd hq (by simp)⟩
                obtain ⟨-, rfl⟩ := CountLine.done.inj hq
                refine ⟨?_, h.argv_le⟩
                dsimp only
                rw [List.length_drop]
                have := h.querybuf_le
                omega
              · refine ⟨fun p' q' hq => absurd hq (by simp), fun q' pos hq => ?_⟩
                obtain ⟨rfl, -⟩ := CountLine.arguments.inj hq
                exact ⟨h.querybuf_le, fun a ha => by cases ha⟩

lemma parseRequest_small (hw : env.SplitsLines) (h : q.Small) :
    (parseRequest env q.typed).2.Small := by
  have htyped := h.typed
  generalize q.typed = q at htyped
  rw [parseRequest]
  split
  · rw [processMultibulkBuffer]
    split
    · obtain ⟨hdone, hgo⟩ := readMultibulkLen_small env htyped
      split
      · rename_i heq
        exact hdone _ _ heq
      · rename_i heq
        exact readArguments_small _ _ _ (hgo _ _ heq)
    · exact readArguments_small _ _ _ htyped
  · rw [processInlineBuffer]
    split
    · split <;> exact htyped
    · dsimp only
      split
      · exact htyped
      · rename_i hargv
        constructor
        · dsimp only
          rw [List.length_drop]
          have := htyped.querybuf_le
          omega
        · intro a ha
          refine (hw hargv a (List.mem_of_mem_filter ha)).trans ?_
          rw [List.length_take]
          exact (min_le_right _ _).trans htyped.querybuf_le

lemma notMem_withoutNewlines (s : List Char) : '\r' ∉ withoutNewlines s := by
  rw [withoutNewlines, List.mem_map]
  rintro ⟨ch, -, hch⟩
  split at hch
  · exact absurd hch (by decide)
  · rename_i hne
    exact hne (.inl hch)

/-- The texts of the errors are lines. -/
lemma notMem_of_nextBulk {pos pos' : ℕ} {text : List Char}
    (h : nextBulk env q pos = .error text pos') : '\r' ∉ text := by
  rw [nextBulk] at h
  split at h
  · exact absurd h (by simp)
  · rw [readBulkLen] at h
    split at h
    · split at h
      · obtain ⟨rfl, -⟩ := BulkLine.error.inj h
        decide
      · exact absurd h (by simp)
    · split at h
      · exact absurd h (by simp)
      · split at h
        · exact absurd h (by simp)
        · split at h
          · obtain ⟨rfl, -⟩ := BulkLine.error.inj h
            exact notMem_withoutNewlines _
          · split at h
            · obtain ⟨rfl, -⟩ := BulkLine.error.inj h
              decide
            · split at h
              · obtain ⟨rfl, -⟩ := BulkLine.error.inj h
                decide
              · split at h <;> exact absurd h (by simp)

lemma notMem_of_readArguments {text : List Char} : ∀ (left : ℕ) (q : Query) (pos : ℕ),
    (readArguments env left q pos).1 = .protocolError text → '\r' ∉ text
  | 0, q, pos, h => absurd h (by simp [readArguments])
  | left + 1, q, pos, h => by
    rw [readArguments] at h
    split at h
    · rename_i hnext
      obtain rfl := Parse.protocolError.inj h
      exact notMem_of_nextBulk hnext
    · exact absurd h (by simp)
    · split at h
      · exact absurd h (by simp)
      · split at h
        · exact notMem_of_readArguments left _ _ h
        · exact notMem_of_readArguments left _ _ h

lemma notMem_of_readMultibulkLen {text : List Char} {q' : Query}
    (h : readMultibulkLen env q = .done (.protocolError text) q') : '\r' ∉ text := by
  rw [readMultibulkLen] at h
  split at h
  · exact absurd h (by simp)
  · split at h
    · split at h
      · obtain ⟨hp, -⟩ := CountLine.done.inj h
        obtain rfl := Parse.protocolError.inj hp
        decide
      · exact absurd h (by simp)
    · split at h
      · exact absurd h (by simp)
      · split at h
        · exact absurd h (by simp)
        · split at h
          · obtain ⟨hp, -⟩ := CountLine.done.inj h
            obtain rfl := Parse.protocolError.inj hp
            decide
          · split at h
            · obtain ⟨hp, -⟩ := CountLine.done.inj h
              obtain rfl := Parse.protocolError.inj hp
              decide
            · split at h <;> exact absurd h (by simp)

lemma notMem_of_parseRequest {text : List Char}
    (h : (parseRequest env q).1 = .protocolError text) : '\r' ∉ text := by
  rw [parseRequest] at h
  split at h
  · rw [processMultibulkBuffer] at h
    split at h
    · split at h
      · rename_i p q' heq
        obtain rfl : p = .protocolError text := h
        exact notMem_of_readMultibulkLen heq
      · exact notMem_of_readArguments _ _ _ h
    · exact notMem_of_readArguments _ _ _ h
  · rw [processInlineBuffer] at h
    split at h
    · split at h
      · obtain rfl := Parse.protocolError.inj h
        decide
      · exact absurd h (by simp)
    · dsimp only at h
      split at h
      · obtain rfl := Parse.protocolError.inj h
        decide
      · exact absurd h (by simp)

/-- The rule for the loop over the buffer, on any bytes: what requests, resets and protocol errors
preserve holds after it, and it comes to its end unless a command does not. -/
lemma processInput_rule {I : σ → Prop} (hl : host.Lawful) (hw : env.SplitsLines)
    (hcommand : ∀ {s argv r}, I s → host.closing s = false → argv ≠ [] →
      (∀ a ∈ argv, a.length ≤ clientMaxQuerybufLen) →
      host.processCommand s argv = some r → I r.2)
    (hreset : ∀ {s}, I s → I (host.resetClient s))
    (herror : ∀ {s text}, '\r' ∉ text → I s → host.closing s = false →
      I (host.protocolError s text)) :
    ∀ (fuel : ℕ) {q : Query} {s : σ}, I s → (host.closing s = true ∨ q.Ready) → q.Small →
      (processInput env host fuel q s = none ∧ ∃ s' argv, I s' ∧ host.closing s' = false ∧
          argv ≠ [] ∧ (∀ a ∈ argv, a.length ≤ clientMaxQuerybufLen) ∧
          host.processCommand s' argv = none) ∨
        ∃ q' s', processInput env host fuel q s = some (q', s') ∧ I s' ∧
          (host.closing s' = true ∨ q'.Ready) ∧ q'.Small
  | 0, q, s, hI, hq, hsmall => .inr ⟨q, s, rfl, hI, hq, hsmall⟩
  | fuel + 1, q, s, hI, hq, hsmall => by
    cases hc : host.closing s with
    | true => exact .inr ⟨q, s, processInput_of_closing hc _, hI, .inl hc, hsmall⟩
    | false =>
      have hready : q.Ready := by
        rcases hq with hq | hq
        · rw [hc] at hq
          exact absurd hq (by simp)
        · exact hq
      rw [processInput]
      by_cases hnil : q.querybuf = []
      · rw [if_pos hnil]
        exact .inr ⟨q, s, rfl, hI, .inr hready, hsmall⟩
      rw [if_neg hnil, if_neg (by simp [hc])]
      have hparse := parseRequest_ready env hready
      have hsmall' := parseRequest_small hw hsmall
      have htext : ∀ text, (parseRequest env q.typed).1 = .protocolError text → '\r' ∉ text :=
        fun _ => notMem_of_parseRequest
      generalize parseRequest env q.typed = r at hparse hsmall' htext
      obtain ⟨p, q'⟩ := r
      cases p with
      | incomplete => exact .inr ⟨q', s, rfl, hI, .inr (hparse.2 rfl), hsmall'⟩
      | protocolError text =>
        exact .inr ⟨q', _, rfl, herror (htext text rfl) hI hc,
          .inl (hl.closing_protocolError s text), hsmall'⟩
      | assertFailed => exact absurd rfl hparse.1
      | complete =>
        -- the next request finds the client as it should be
        have hnext : ∀ {s'}, I s' → _ := fun hI' =>
          processInput_rule hl hw hcommand hreset herror fuel hI' (.inr q'.ready_reset)
            hsmall'.reset
        dsimp only
        split
        · exact hnext (hreset hI)
        · rename_i hargv
          cases hcall : host.processCommand s q'.argv with
          | none => exact .inl ⟨rfl, s, q'.argv, hI, hc, hargv, hsmall'.argv_le, hcall⟩
          | some r =>
            obtain ⟨ok, s'⟩ := r
            have hI' := hcommand hI hc hargv hsmall'.argv_le hcall
            cases ok with
            | true => exact hnext (hreset hI')
            | false =>
              exact processInput_rule hl hw hcommand hreset herror fuel hI'
                (.inl (hl.closing_of_err hcall)) hsmall'

end AnyBytes

/-! ## Any number of reads -/

section Serve

variable {env : ParseEnv} {host : Host σ} {cmds : List (List (List Char))}

/-- The server reads from the bytes that are on their way: at each entry of the list at least one of
them has arrived, and at most one more than the entry says. -/
def serve (env : ParseEnv) (host : Host σ) :
    List ℕ → Query → σ → List Char → Option (Query × σ × List Char)
  | [], q, s, U => some (q, s, U)
  | n :: reads, q, s, U =>
    if U = [] then some (q, s, U)
    else
      let data := U.take (min (n + 1) q.readlen)
      match readQueryFromClient env host q s data with
      | none => none
      | some (.freed s) => some (q, s, U.drop data.length)
      | some (.alive q s) => serve env host reads q s (U.drop data.length)

lemma Host.run_append (s : σ) (now later : List (List (List Char))) :
    host.run s (now ++ later) = (host.run s now).bind fun s' => host.run s' later := by
  induction now generalizing s with
  | nil => rfl
  | cons argv now ih =>
    cases hc : host.closing s with
    | true =>
      rw [List.cons_append, Host.run, Host.run, if_pos hc, if_pos hc, Option.bind_some]
      cases later with
      | nil => rfl
      | cons argv' later => rw [Host.run, if_pos hc]
    | false =>
      rw [List.cons_append, Host.run_cons_of_not_closing hc, Host.run_cons_of_not_closing hc,
        Option.bind_assoc]
      congr 1
      funext s'
      exact ih s'

lemma Host.run_of_closing {s : σ} (h : host.closing s = true) : host.run s cmds = some s := by
  cases cmds with
  | nil => rfl
  | cons argv cmds => rw [Host.run, if_pos h]

end Serve

/-! ## A parser and a server to try it with -/

/-- Numbers as `Numeral.readInt` reads them and words between blanks. -/
def plainEnv : ParseEnv where
  string2ll s :=
    match Numeral.readInt s with
    | some (n, []) => some n
    | _ => none
  sdssplitargs s := some (s.splitOn ' ')

lemma plainEnv_readsDecimals : plainEnv.ReadsDecimals := by
  intro m _
  have hends : Numeral.Ends 10 [] := by simp [Numeral.Ends]
  have := Numeral.readInt_intChars hends m
  rw [List.append_nil] at this
  simp only [plainEnv, this]

lemma plainEnv_splitsLines : plainEnv.SplitsLines := by
  intro text argv h
  obtain rfl : text.splitOn ' ' = argv := Option.some.inj h
  have hpieces : ∀ (text acc : List Char), ∀ a ∈ List.splitOnPPrepend (· == ' ') text acc,
      a.length ≤ acc.length + text.length := by
    intro text
    induction text with
    | nil => simp
    | cons ch text ih =>
      intro acc a ha
      rw [List.splitOnPPrepend_cons_eq_if] at ha
      split at ha
      · rcases List.mem_cons.mp ha with rfl | ha
        · simp
        · have := ih [] a ha
          rw [List.length_cons]
          simp at this
          omega
      · have := ih (ch :: acc) a ha
        simp only [List.length_cons] at this ⊢
        omega
  intro a ha
  have := hpieces text [] a (by rwa [List.splitOn_eq_splitOnP] at ha)
  simpa using this

end SelfTestCode.Network
