import NewsReader.Config.Endpoint

/-!
# URLs with the scheme of web sockets

Each scheme of the web has one of web sockets that goes with it. Both mean the same port, so a URL
of a host can take the scheme, and then it asks the same port of the same host.

* `socketScheme?_eq_some_iff` — the schemes that go together.
* `socketScheme?_spec` — what schemes that go together have in common.
* `liveEndpoint?_eq_some` — the live endpoint of a URL of a host.
-/

namespace NewsReader.Url

variable {u : Url} {scheme socket : String}

/-- The schemes of web sockets, and those that they go with. -/
theorem socketScheme?_eq_some_iff :
    socketScheme? scheme = some socket ↔
      (scheme = "http" ∨ scheme = "ws") ∧ socket = "ws" ∨
        (scheme = "https" ∨ scheme = "wss") ∧ socket = "wss" := by
  unfold socketScheme?
  split
  · next h => rcases h with rfl | rfl <;> simp [eq_comm]
  · next h =>
    split
    · next h' => rcases h' with rfl | rfl <;> simp [eq_comm]
    · next h' => simp [h, h']

/-- The schemes that one of web sockets goes with. -/
theorem isSome_socketScheme?_iff :
    (socketScheme? scheme).isSome ↔ scheme ∈ ["http", "ws", "https", "wss"] := by
  simp only [Option.isSome_iff_exists, socketScheme?_eq_some_iff, List.mem_cons,
    List.not_mem_nil, or_false]
  constructor
  · rintro ⟨socket, ⟨h | h, -⟩ | ⟨h | h, -⟩⟩ <;> simp [h]
  · rintro (h | h | h | h) <;> simp [h]

/-- A scheme and the one of web sockets that goes with it mean the same port. Both are special, and
neither is that of files. -/
theorem socketScheme?_spec (h : socketScheme? scheme = some socket) :
    isSpecial scheme ∧ scheme ≠ "file" ∧ isSpecial socket ∧ socket ≠ "file" ∧
      defaultPort? socket = defaultPort? scheme := by
  rcases socketScheme?_eq_some_iff.mp h with ⟨rfl | rfl, rfl⟩ | ⟨rfl | rfl, rfl⟩ <;> decide

/-- A scheme of web sockets goes with itself. -/
theorem socketScheme?_socket (h : socketScheme? scheme = some socket) :
    socketScheme? socket = some socket := by
  rcases socketScheme?_eq_some_iff.mp h with ⟨-, rfl⟩ | ⟨-, rfl⟩ <;> rfl

/-- The URL of a host has a live endpoint if there is a scheme for it. -/
theorem liveEndpoint?_eq_some (h : socketScheme? u.scheme = some socket) (hhost : u.host?.isSome) :
    u.liveEndpoint? = some
      { scheme := socket
        authority := u.authority.map (·.forScheme socket)
        path := .segments [['w', 's']]
        query := none
        fragment := none } := by
  obtain ⟨hspecial, -, hspecial', hfile, -⟩ := socketScheme?_spec h
  -- Nothing stands in the way of the other scheme: both are special, and there is a host.
  have hset : u.setScheme? socket =
      some { u with scheme := socket, authority := u.authority.map (·.forScheme socket) } :=
    if_pos ⟨hspecial'.trans hspecial.symm, fun _ => hhost, fun hsocket => absurd hsocket hfile⟩
  rw [liveEndpoint?, h, Option.bind_some, hset, Option.map_some]

end NewsReader.Url
