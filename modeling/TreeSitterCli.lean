import TreeSitterCli.Rust.Str
import TreeSitterCli.Rust.Anyhow
import TreeSitterCli.Rust.Process
import TreeSitterCli.Paths.CollectPaths
import TreeSitterCli.Paths.Events
import TreeSitterCli.Paths.Resolution
import TreeSitterCli.Paths.Idempotence
import TreeSitterCli.Run.Query
import TreeSitterCli.Run.Parse
import TreeSitterCli.Run.Highlight
import TreeSitterCli.Run.Generate
import TreeSitterCli.Run.Test
import TreeSitterCli.Run.Delegated
import TreeSitterCli.Run.Main
