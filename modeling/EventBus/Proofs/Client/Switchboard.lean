import EventBus.Proofs.Client.Network

/-!
# Switchboards

The smallest network that works: all connections are kept in a list, and a client that waits has the host of its
connection answer everything that was sent there. `Switchboard.network` shows that nothing else is asked of a network.
-/

namespace EventBus

variable {c : Catalog} {τ : Type}

/-- All connections, in the order in which they were opened. -/
abbrev Switchboard := List Line

namespace Switchboard

/-- What a host writes when everything that was sent reaches it in one chunk, and nothing else goes on there. -/
def written (outpost : Outpost c τ) (start : τ) (sent : Bytes) : Bytes :=
  match ((Host.service outpost.config outpost.handler).receiveAll 0 .empty [sent] []).alone start with
  | some ((pieces, _), _) => pieces.flatten
  | none => []

/-- What is written is what a host may write, since its answers end. -/
theorem writes_written (outpost : Outpost c τ) (start : τ) (sent : Bytes) :
    outpost.Writes sent (written outpost start sent) := by
  have hends : ((Host.service outpost.config outpost.handler).receiveAll 0 .empty [sent] []).Ends (· = ·) start :=
    FrameService.ends_receiveAll (fun frame state => Host.ends_answer outpost.handler frame state) [sent] [] start
  obtain ⟨⟨pieces, failure⟩, after, hserved⟩ := hends.exists_comes fun _ => rfl
  rw [written, Routine.comes_eq_iff.mp hserved]
  have hwrites := Outpost.Writes.served (fun _ hnone => absurd hnone List.not_mem_nil) hserved
  rwa [List.flatten_singleton] at hwrites

/-- Surroundings with hosts at some endpoints and nothing else, in which time does not pass. -/
def environment (outposts : Endpoint → Option (Outpost c τ)) (start : τ) : Environment Switchboard where
  connect endpoint board :=
    if (outposts endpoint).isSome then (.ok board.length, board ++ [⟨endpoint, [], 0⟩]) else (.error .refused, board)
  write handle bytes board :=
    match board[handle]? with
    | some line => (.ok (), board.set handle { line with sent := line.sent ++ bytes })
    | none => (.error .brokenPipe, board)
  receive handle _ board :=
    match board[handle]? with
    | some line =>
      let bytes := (outposts line.endpoint).elim [] fun outpost => written outpost start line.sent
      (⟨[.piece (bytes.drop line.fetched)], .closed⟩, board.set handle { line with fetched := bytes.length })
    | none => (⟨[], .closed⟩, board)
  close _ board := board
  now _ := .zero

theorem getElem?_set_of_getElem? {board : Switchboard} {handle : Handle} {line : Line} (h : board[handle]? = some line)
    (changed : Line) :
    ((board.set handle changed)[·]?) = Function.update (board[·]?) handle (some changed) := by
  funext other
  obtain ⟨hlt, -⟩ := List.getElem?_eq_some_iff.mp h
  by_cases hsame : other = handle
  · subst hsame
    rw [Function.update_self, List.getElem?_set_self hlt]
  · rw [Function.update_of_ne hsame, List.getElem?_set_ne (Ne.symm hsame)]

variable {outposts : Endpoint → Option (Outpost c τ)} {endpoint : Endpoint} {outpost : Outpost c τ}

/-- A new connection is behind the others. -/
theorem connect_eq (hlistens : outposts endpoint = some outpost) (start : τ) (board : Switchboard) :
    ∃ handle after, (environment outposts start).connect endpoint board = (.ok handle, after) ∧ board[handle]? = none
      ∧ (after[·]?) = Function.update (board[·]?) handle (some ⟨endpoint, [], 0⟩) := by
  refine ⟨board.length, board ++ [⟨endpoint, [], 0⟩], ?_, List.getElem?_eq_none (Nat.le_refl _), ?_⟩
  · rw [environment]
    dsimp only
    rw [hlistens, if_pos Option.isSome_some]
  · funext handle
    rcases Nat.lt_trichotomy handle board.length with hlt | rfl | hgt
    · rw [Function.update_of_ne (Nat.ne_of_lt hlt), List.getElem?_append_left hlt]
    · rw [Function.update_self, List.getElem?_concat_length]
    · rw [Function.update_of_ne (Nat.ne_of_gt hgt), List.getElem?_eq_none (Nat.le_of_lt hgt),
        List.getElem?_eq_none (by rw [List.length_append, List.length_singleton]; omega)]

/-- What a client writes goes in at the end of what was sent. -/
theorem write_eq {board : Switchboard} {handle : Handle} {line : Line} (hline : board[handle]? = some line) (start : τ)
    (bytes : Bytes) :
    ∃ after, (environment outposts start).write handle bytes board = (.ok (), after)
      ∧ (after[·]?) = Function.update (board[·]?) handle (some { line with sent := line.sent ++ bytes }) := by
  refine ⟨board.set handle { line with sent := line.sent ++ bytes }, ?_, getElem?_set_of_getElem? hline _⟩
  rw [environment]
  dsimp only
  rw [hline]

/-- A client finds what the host of its connection writes. -/
theorem receive_eq {board : Switchboard} {handle : Handle} {line : Line} (hline : board[handle]? = some line)
    (hlistens : outposts line.endpoint = some outpost) (start : τ) (limit : Option Duration) :
    ∃ reader after bytes, (environment outposts start).receive handle limit board = (reader, after)
      ∧ outpost.Writes line.sent bytes ∧ reader.bytes = bytes.drop line.fetched
      ∧ (after[·]?) = Function.update (board[·]?) handle (some { line with fetched := bytes.length }) := by
  -- the board delivers everything that is written and not yet fetched, in one piece
  have hreceive : (environment outposts start).receive handle limit board
      = (⟨[.piece ((written outpost start line.sent).drop line.fetched)], .closed⟩,
        board.set handle { line with fetched := (written outpost start line.sent).length }) := by
    rw [environment]
    dsimp only
    rw [hline]
    dsimp only
    rw [hlistens]
    rfl
  exact ⟨_, _, written outpost start line.sent, hreceive, writes_written outpost start line.sent, List.append_nil _,
    getElem?_set_of_getElem? hline _⟩

/-- A switchboard is a network that works. -/
def network (outposts : Endpoint → Option (Outpost c τ)) (start : τ) :
    Network (environment outposts start) outposts where
  line? board handle := board[handle]?
  connects hlistens board := connect_eq hlistens start board
  writes hline bytes := write_eq hline start bytes
  receives hline hlistens limit := receive_eq hline hlistens start limit

end Switchboard

end EventBus
