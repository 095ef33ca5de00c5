/-!
# Nicknames

A new user is called by an adjective and an animal.
-/

namespace GuessingRoom.Nickname

def adjectives : List String :=
  ["Silly", "Handsome", "Angry", "Sleepy", "Brave", "Fuzzy", "Grumpy", "Jolly", "Sneaky", "Wobbly"]

def animals : List String :=
  ["Cat", "Dog", "Mouse", "Otter", "Panda", "Llama", "Badger", "Walrus", "Gecko", "Puffin"]

def all : List String := adjectives.flatMap fun a => animals.map (a ++ ·)

end GuessingRoom.Nickname
